import PixelMachine.Proofs.Placement
import Mathlib.Data.List.Sort
import Mathlib.Data.Nat.Count
import Mathlib.Logic.Function.Iterate

/-!
# Calls and returns

The steps of a run are read as a word of brackets: an executed call opens, an executed return closes,
and all other steps, those that recover from a fault among them, are neither. A return answers a call if
the word between them is balanced (`Machine.Answers`).

The stack of a machine is compared with this matching. `Machine.Tracked` is what holds of the steps of the
calls in progress throughout a run: the stack has their places, and after each of them as many calls are
still open as lie above it. After an answered call the steps have returned from more than they have called
(`Machine.Answers.callDepth_eq_none`), so the calls in progress are the calls without an answer; and a
return takes the latest of them, after which nothing is open.

The direction of the cursor is no matter of calls: it makes a quarter turn for each branch on equal
registers (`Machine.direction_stepN`).
-/

set_option autoImplicit false

namespace PixelMachine

/-! ## Balanced words -/

/-- How many calls are open after a word, if so many are open before it. There is no answer if the word
returns from more calls than are open. -/
def callDepth (depth : Nat) : List (Option Opcode) → Option Nat
  | [] => some depth
  | kind :: rest =>
    if kind = some .call then callDepth (depth + 1) rest
    else if kind = some .ret then
      if depth = 0 then none else callDepth (depth - 1) rest
    else callDepth depth rest

/-- The calls and returns of a word are balanced if it closes all that it opens and nothing else. -/
def BalancedCalls (word : List (Option Opcode)) : Prop := callDepth 0 word = some 0

instance (word : List (Option Opcode)) : Decidable (BalancedCalls word) :=
  inferInstanceAs (Decidable (_ = _))

/-- The depth after a longer word is the depth after its rest, from where its beginning ends. -/
theorem callDepth_append (depth : Nat) (v w : List (Option Opcode)) :
    callDepth depth (v ++ w) = (callDepth depth v).bind fun d => callDepth d w := by
  induction v generalizing depth with
  | nil => rfl
  | cons kind rest ih =>
    rw [List.cons_append, callDepth, callDepth]
    split
    · exact ih (depth + 1)
    · split
      · split
        · rfl
        · exact ih (depth - 1)
      · exact ih depth

/-- The depth after one more step. -/
theorem callDepth_concat {depth d : Nat} {v : List (Option Opcode)} (h : callDepth depth v = some d)
    (kind : Option Opcode) : callDepth depth (v ++ [kind]) = callDepth d [kind] := by
  rw [callDepth_append, h]
  rfl

/-- A balanced word cannot be followed by one more return. -/
theorem BalancedCalls.append_ret {v : List (Option Opcode)} (h : BalancedCalls v)
    (w : List (Option Opcode)) : callDepth 0 (v ++ some .ret :: w) = none := by
  rw [callDepth_append, h]
  rfl

namespace Machine

variable {m : Machine}

/-! ## What a run executes -/

/-- The kind of instruction that the next step executes, if it executes one. -/
def executed? (m : Machine) : Option Opcode :=
  match m.deed? with
  | some (.executed i) => some i.kind
  | _ => none

/-- Whether the next step executes a branch on equal registers. -/
def turns (m : Machine) : Bool :=
  match m.deed? with
  | some (.executed i) => i.kind = .branch ∧ m.state.register i.g = m.state.register i.b
  | _ => false

/-- What the steps from step `j` up to step `k` execute. -/
def trace (m : Machine) (j k : Nat) : List (Option Opcode) :=
  (List.range' j (k - j)).map fun t => (m.stepN t).executed?

/-- The return in step `k` answers the call in step `j`. -/
def Answers (m : Machine) (k j : Nat) : Prop :=
  j < k ∧ (m.stepN j).executed? = some .call ∧ (m.stepN k).executed? = some .ret ∧
    BalancedCalls (m.trace (j + 1) k)

instance (m : Machine) (k j : Nat) : Decidable (m.Answers k j) :=
  inferInstanceAs (Decidable (_ ∧ _))

/-- Step `j` is a call that no return has answered before step `n`. -/
def Unanswered (m : Machine) (n j : Nat) : Prop :=
  (m.stepN j).executed? = some .call ∧ ∀ k < n, ¬ m.Answers k j

instance (m : Machine) (n j : Nat) : Decidable (m.Unanswered n j) :=
  inferInstanceAs (Decidable (_ ∧ _))

/-- Between a step and itself nothing is executed. -/
theorem trace_self (m : Machine) (j : Nat) : m.trace j j = [] := by
  rw [trace, Nat.sub_self]
  rfl

/-- A trace can be cut anywhere. -/
theorem trace_append (m : Machine) {j k n : Nat} (hjk : j ≤ k) (hkn : k ≤ n) :
    m.trace j n = m.trace j k ++ m.trace k n := by
  have hrange : List.range' j (n - j) = List.range' j (k - j) ++ List.range' k (n - k) := by
    have happend := List.range'_append_1 (s := j) (m := k - j) (n := n - k)
    rw [show j + (k - j) = k by omega, show k - j + (n - k) = n - j by omega] at happend
    exact happend.symm
  rw [trace, hrange, List.map_append]
  rfl

/-- A trace starts with what its first step executes. -/
theorem trace_cons (m : Machine) {j n : Nat} (h : j < n) :
    m.trace j n = (m.stepN j).executed? :: m.trace (j + 1) n := by
  rw [trace, show n - j = (n - (j + 1)) + 1 by omega, List.range'_succ]
  rfl

/-- A trace ends with what its last step executes. -/
theorem trace_succ (m : Machine) {j n : Nat} (h : j ≤ n) :
    m.trace j (n + 1) = m.trace j n ++ [(m.stepN n).executed?] := by
  rw [m.trace_append h (Nat.le_succ n), m.trace_cons (Nat.lt_succ_self n), trace_self]

/-! ## What a step does to the stack and the direction -/

/-- An executed instruction has been carried out by its rule. -/
theorem exists_of_executed? {k : Opcode} (h : m.executed? = some k) :
    ∃ i t, i.kind = k ∧ Executes m.grid m.state i t ∧ m.step.machine = m.after i t := by
  unfold executed? at h
  split at h
  · next i hdeed =>
    obtain ⟨t, hexec⟩ := (executes_of_deed? hdeed).2
    exact ⟨i, t, Option.some.inj h, hexec, (step_of_executed hdeed hexec).1⟩
  · cases h

/-- A call puts its place on the stack. -/
theorem callStack_step_of_call (h : m.executed? = some .call) :
    m.step.machine.state.callStack = m.state.callStack.push m.state.location := by
  obtain ⟨i, t, hkind, hexec, hmachine⟩ := exists_of_executed? h
  rw [hmachine]
  cases hexec with
  | call slot hslot => rfl
  | _ => cases hkind

/-- A return takes the last place off the stack and goes on one cell past it. -/
theorem callStack_step_of_ret (h : m.executed? = some .ret) :
    ∃ caller, m.state.callStack = m.step.machine.state.callStack.push caller ∧
      m.step.machine.state.location = m.grid.offset caller m.state.direction 1 := by
  obtain ⟨i, t, hkind, hexec, hmachine⟩ := exists_of_executed? h
  rw [hmachine]
  cases hexec with
  | ret caller rest hcalls => exact ⟨caller, hcalls, rfl⟩
  | _ => cases hkind

/-- Only calls and returns change the stack; a recovery does not. -/
theorem callStack_step_of_ne (hcall : m.executed? ≠ some .call) (hret : m.executed? ≠ some .ret) :
    m.step.machine.state.callStack = m.state.callStack := by
  rcases step_cases m with ⟨-, h⟩ | ⟨i, t, hdeed, hexec, h, -⟩ | ⟨fault, handler, -, -, h, -⟩ |
    ⟨fault, -, -, h, -⟩
  · rw [h]
  · rw [executed?, hdeed] at hcall hret
    rw [h]
    cases hexec with
    | call slot hslot => exact absurd rfl hcall
    | ret caller rest hcalls => exact absurd rfl hret
    | _ => rfl
  · rw [h]
    rfl
  · rw [h]
    rfl

/-- Only a branch on equal registers changes the direction. -/
theorem direction_step (m : Machine) :
    m.step.machine.state.direction =
      if m.turns then m.state.direction.rotated else m.state.direction := by
  rcases step_cases m with ⟨hdeed, h⟩ | ⟨i, t, hdeed, hexec, h, -⟩ |
    ⟨fault, handler, hdeed, -, h, -⟩ | ⟨fault, hdeed, -, h, -⟩
  · rw [h, turns, hdeed]
    rfl
  · rw [h, turns, hdeed]
    cases hexec with
    | turn heq => simp [after, heq, Direction.rotated]
    | pass hne => simp [after, hne]
    | _ => rfl
  · rw [h, turns, hdeed]
    rfl
  · rw [h, turns, hdeed]
    rfl

/-- A call does not turn. -/
theorem direction_step_of_call (h : m.executed? = some .call) :
    m.step.machine.state.direction = m.state.direction := by
  obtain ⟨i, t, hkind, hexec, hmachine⟩ := exists_of_executed? h
  rw [hmachine]
  cases hexec with
  | call slot hslot => rfl
  | _ => cases hkind

/-! ## Calls in progress -/

/-- What is known of the steps of the calls in progress before step `n`, the latest first. -/
structure Tracked (m : Machine) (n : Nat) (steps : List Nat) : Prop where
  /-- The stack has their places. -/
  calls_eq : (m.stepN n).state.callStack.calls = steps.map fun j => (m.stepN j).state.location
  /-- They are in order. -/
  sorted : steps.SortedGT
  /-- They are calls, and each has as many open calls after it as lie above it. -/
  isCall : ∀ q j, steps[q]? = some j →
    j < n ∧ (m.stepN j).executed? = some .call ∧ callDepth 0 (m.trace (j + 1) n) = some q
  /-- All other calls have been answered. -/
  answered : ∀ j < n, (m.stepN j).executed? = some .call → j ∉ steps → ∃ k < n, m.Answers k j

namespace Tracked

variable {n j : Nat} {steps : List Nat}

/-- No call is in progress at the beginning. -/
theorem zero (h : m.state.callStack = .empty) : m.Tracked 0 [] where
  calls_eq := by rw [stepN, h]; rfl
  sorted := List.Pairwise.nil.sortedGT
  isCall q j hj := by cases hj
  answered j hj := absurd hj (Nat.not_lt_zero j)

/-- One more step is read after the steps since a call in progress. -/
theorem depth_succ (h : m.Tracked n steps) {q : Nat} (hj : steps[q]? = some j) :
    callDepth 0 (m.trace (j + 1) (n + 1)) = callDepth q [(m.stepN n).executed?] := by
  obtain ⟨hlt, -, hdepth⟩ := h.isCall q j hj
  rw [m.trace_succ hlt, callDepth_concat hdepth]

/-- A call joins the calls in progress. -/
theorem call (h : m.Tracked n steps) (hcall : (m.stepN n).executed? = some .call) :
    m.Tracked (n + 1) (n :: steps) where
  calls_eq := by
    rw [stepN_succ, callStack_step_of_call hcall, CallStack.calls_push, h.calls_eq, List.map_cons]
  sorted := by
    refine (List.pairwise_cons.2 ⟨?_, h.sorted.pairwise⟩).sortedGT
    intro j hj
    obtain ⟨q, hq⟩ := List.getElem?_of_mem hj
    exact (h.isCall q j hq).1
  isCall q j hj := by
    cases q with
    | zero =>
      cases hj
      exact ⟨Nat.lt_succ_self n, hcall, by rw [trace_self]; rfl⟩
    | succ q =>
      obtain ⟨hlt, hj', -⟩ := h.isCall q j hj
      exact ⟨Nat.lt_succ_of_lt hlt, hj', by rw [h.depth_succ hj, hcall]; rfl⟩
  answered j hj hj' hnot := by
    rw [List.mem_cons, not_or] at hnot
    obtain ⟨k, hk, hans⟩ := h.answered j (by omega) hj' hnot.2
    exact ⟨k, Nat.lt_succ_of_lt hk, hans⟩

/-- No return is executed on an empty stack. -/
theorem ne_nil_of_ret (h : m.Tracked n steps) (hret : (m.stepN n).executed? = some .ret) :
    steps ≠ [] := by
  rintro rfl
  obtain ⟨caller, hstack, -⟩ := callStack_step_of_ret hret
  have hcalls := h.calls_eq
  rw [hstack] at hcalls
  cases hcalls

/-- A return answers the latest call in progress. -/
theorem answers (h : m.Tracked n (j :: steps)) (hret : (m.stepN n).executed? = some .ret) :
    m.Answers n j := by
  obtain ⟨hlt, hcall, hdepth⟩ := h.isCall 0 j rfl
  exact ⟨hlt, hcall, hret, hdepth⟩

/-- The latest call in progress is over after a return. -/
theorem ret (h : m.Tracked n (j :: steps)) (hret : (m.stepN n).executed? = some .ret) :
    m.Tracked (n + 1) steps where
  calls_eq := by
    obtain ⟨caller, hstack, -⟩ := callStack_step_of_ret hret
    have hcalls := h.calls_eq
    rw [hstack, CallStack.calls_push, List.map_cons, List.cons.injEq] at hcalls
    rw [stepN_succ, hcalls.2]
  sorted := h.sorted.pairwise.of_cons.sortedGT
  isCall q i hi := by
    have hi' : (j :: steps)[q + 1]? = some i := hi
    obtain ⟨hlt, hcall, -⟩ := h.isCall (q + 1) i hi'
    exact ⟨Nat.lt_succ_of_lt hlt, hcall, by rw [h.depth_succ hi', hret]; rfl⟩
  answered i hi hcall hnot := by
    -- the latest call has its answer now, and any other had one before or has none
    by_cases hij : i = j
    · exact ⟨n, Nat.lt_succ_self n, hij ▸ h.answers hret⟩
    · have hin : i ≠ n := by
        rintro rfl
        cases hcall.symm.trans hret
      have hnot' : i ∉ j :: steps := by
        rw [List.mem_cons, not_or]
        exact ⟨hij, hnot⟩
      obtain ⟨k, hk, hans⟩ := h.answered i (by omega) hcall hnot'
      exact ⟨k, Nat.lt_succ_of_lt hk, hans⟩

/-- Any other step leaves the calls in progress as they are. -/
theorem other (h : m.Tracked n steps) (hcall : (m.stepN n).executed? ≠ some .call)
    (hret : (m.stepN n).executed? ≠ some .ret) : m.Tracked (n + 1) steps where
  calls_eq := by rw [stepN_succ, callStack_step_of_ne hcall hret, h.calls_eq]
  sorted := h.sorted
  isCall q j hj := by
    obtain ⟨hlt, hj', -⟩ := h.isCall q j hj
    refine ⟨Nat.lt_succ_of_lt hlt, hj', ?_⟩
    rw [h.depth_succ hj, callDepth, if_neg hcall, if_neg hret, callDepth]
  answered j hj hj' hnot := by
    have hne : j ≠ n := by
      rintro rfl
      exact hcall hj'
    obtain ⟨k, hk, hans⟩ := h.answered j (by omega) hj' hnot
    exact ⟨k, Nat.lt_succ_of_lt hk, hans⟩

end Tracked

/-- From a machine without calls, the calls in progress can be tracked all the way. -/
theorem exists_tracked (h : m.state.callStack = .empty) (n : Nat) : ∃ steps, m.Tracked n steps := by
  induction n with
  | zero => exact ⟨[], .zero h⟩
  | succ n ih =>
    obtain ⟨steps, hsteps⟩ := ih
    by_cases hcall : (m.stepN n).executed? = some .call
    · exact ⟨n :: steps, hsteps.call hcall⟩
    · by_cases hret : (m.stepN n).executed? = some .ret
      · obtain ⟨j, rest, rfl⟩ := List.exists_cons_of_ne_nil (hsteps.ne_nil_of_ret hret)
        exact ⟨rest, hsteps.ret hret⟩
      · exact ⟨steps, hsteps.other hcall hret⟩

/-- Once a call has been answered, the steps after it have returned from more than they have called. -/
theorem Answers.callDepth_eq_none {j k n : Nat} (h : m.Answers k j) (hkn : k < n) :
    callDepth 0 (m.trace (j + 1) n) = none := by
  obtain ⟨hjk, -, hret, hbalanced⟩ := h
  rw [m.trace_append hjk hkn.le, m.trace_cons hkn, hret]
  exact hbalanced.append_ret _

namespace Tracked

variable {n j : Nat} {steps : List Nat}

/-- The calls in progress are the calls without an answer. -/
theorem mem_iff (h : m.Tracked n steps) : j ∈ steps ↔ j < n ∧ m.Unanswered n j := by
  constructor
  · intro hj
    obtain ⟨q, hq⟩ := List.getElem?_of_mem hj
    obtain ⟨hlt, hcall, hdepth⟩ := h.isCall q j hq
    refine ⟨hlt, hcall, ?_⟩
    intro k hk hans
    cases hdepth.symm.trans (hans.callDepth_eq_none hk)
  · rintro ⟨hlt, hcall, hnone⟩
    by_contra hnot
    obtain ⟨k, hk, hans⟩ := h.answered j hlt hcall hnot
    exact hnone k hk hans

/-- The calls in progress in order, the earliest first. -/
theorem reverse_eq (h : m.Tracked n steps) :
    steps.reverse = (List.range n).filter fun j => m.Unanswered n j := by
  have hrange := ((List.sortedLT_range n).pairwise.filter fun j => m.Unanswered n j).sortedLT
  refine h.sorted.reverse.eq_of_mem_iff hrange ?_
  intro j
  rw [List.mem_reverse, h.mem_iff, List.mem_filter, List.mem_range, decide_eq_true_iff]

/-- A return can only answer the latest call in progress. -/
theorem head_of_answers (h : m.Tracked n steps) (hans : m.Answers n j) : steps[0]? = some j := by
  obtain ⟨hlt, hcall, -, hbalanced⟩ := hans
  -- had the call been answered before, the steps since then would not be balanced
  have hmem : j ∈ steps := by
    rw [h.mem_iff]
    refine ⟨hlt, hcall, ?_⟩
    intro k hk hearlier
    cases hbalanced.symm.trans (hearlier.callDepth_eq_none hk)
  obtain ⟨q, hq⟩ := List.getElem?_of_mem hmem
  obtain ⟨-, -, hdepth⟩ := h.isCall q j hq
  obtain rfl : 0 = q := Option.some.inj (hbalanced.symm.trans hdepth)
  exact hq

end Tracked

/-! ## Counting steps -/

/-- How many of the first steps execute an instruction of a kind. -/
def executions (m : Machine) (k : Opcode) (n : Nat) : Nat :=
  Nat.count (fun t => (m.stepN t).executed? = some k) n

/-- How many of the first steps execute a branch on equal registers. -/
def turned (m : Machine) (n : Nat) : Nat :=
  Nat.count (fun t => (m.stepN t).turns) n

/-- From a machine without calls, the stack is as deep as there were more calls than returns. -/
theorem depth_add_executions (h : m.state.callStack = .empty) (n : Nat) :
    (m.stepN n).state.callStack.depth + m.executions .ret n = m.executions .call n := by
  induction n with
  | zero =>
    rw [stepN, h]
    rfl
  | succ n ih =>
    have hsucc : ∀ k, m.executions k (n + 1) =
        m.executions k n + if (m.stepN n).executed? = some k then 1 else 0 :=
      fun k => Nat.count_succ _ n
    rw [stepN_succ, hsucc, hsucc]
    by_cases hcall : (m.stepN n).executed? = some .call
    · rw [callStack_step_of_call hcall, CallStack.depth_push, hcall, if_pos rfl, if_neg (by decide)]
      omega
    · by_cases hret : (m.stepN n).executed? = some .ret
      · obtain ⟨caller, hstack, -⟩ := callStack_step_of_ret hret
        rw [hstack, CallStack.depth_push] at ih
        rw [if_pos hret, if_neg hcall]
        omega
      · rw [callStack_step_of_ne hcall hret, if_neg hcall, if_neg hret]
        exact ih

/-- The direction after some steps is a quarter turn for each branch taken. -/
theorem direction_stepN (m : Machine) (n : Nat) :
    (m.stepN n).state.direction = Direction.rotated^[m.turned n] m.state.direction := by
  induction n with
  | zero => rfl
  | succ n ih =>
    have hsucc : m.turned (n + 1) = m.turned n + if (m.stepN n).turns then 1 else 0 :=
      Nat.count_succ _ n
    rw [stepN_succ, direction_step, ih, hsucc]
    split
    · rw [Function.iterate_succ_apply']
    · rfl

/-- Four times any number of quarter turns lead back to the old direction. -/
theorem direction_of_four_dvd (hm : m.state.direction.IsUnit) {n : Nat} (h : 4 ∣ m.turned n) :
    (m.stepN n).state.direction = m.state.direction := by
  obtain ⟨q, hq⟩ := h
  rw [direction_stepN, hq, Function.iterate_mul]
  exact Function.iterate_fixed hm.rotated_four q

/-! ## Calls and returns of a run -/

/-- A return goes on one cell past the call that it answers, along the direction that it has itself. -/
theorem location_of_answers (h : m.state.callStack = .empty) {j k : Nat} (hans : m.Answers k j) :
    (m.stepN (k + 1)).state.location =
      m.grid.offset (m.stepN j).state.location (m.stepN k).state.direction 1 := by
  obtain ⟨steps, hsteps⟩ := exists_tracked h k
  obtain ⟨caller, hstack, hlocation⟩ := callStack_step_of_ret hans.2.2.1
  obtain ⟨i, rest, rfl⟩ := List.exists_cons_of_ne_nil (hsteps.ne_nil_of_ret hans.2.2.1)
  obtain rfl : i = j := Option.some.inj (hsteps.head_of_answers hans)
  have hcalls := hsteps.calls_eq
  rw [hstack, CallStack.calls_push, List.map_cons, List.cons.injEq] at hcalls
  rw [stepN_succ, hlocation, hcalls.1, grid_stepN]

/-- Each return of a run answers one call. -/
theorem existsUnique_answers (h : m.state.callStack = .empty) {k : Nat}
    (hret : (m.stepN k).executed? = some .ret) : ∃! j, m.Answers k j := by
  obtain ⟨steps, hsteps⟩ := exists_tracked h k
  obtain ⟨j, rest, rfl⟩ := List.exists_cons_of_ne_nil (hsteps.ne_nil_of_ret hret)
  refine ⟨j, hsteps.answers hret, ?_⟩
  intro i hi
  exact (Option.some.inj (hsteps.head_of_answers hi)).symm

/-- Calls and returns match over a whole run. After any number of steps, the stack is as deep as there
were more calls than returns, it has the places of the calls without an answer, the earliest first, and the
direction is east with a quarter turn for each branch taken. If the next step is a return, it answers one
call and goes on one cell past it along its own direction; that is the direction of the call, if the number
of branches taken in between is a multiple of four. -/
theorem callStack_run (m : Machine) (n : Nat) :
    let r := m.run
    (r.stepN n).state.callStack.depth + r.executions .ret n = r.executions .call n ∧
    (r.stepN n).state.callStack.calls.reverse =
      ((List.range n).filter fun j => r.Unanswered n j).map (fun j => (r.stepN j).state.location) ∧
    (r.stepN n).state.direction = Direction.rotated^[r.turned n] .east ∧
    ((r.stepN n).executed? = some .ret → ∃! j, r.Answers n j) ∧
    ∀ j, r.Answers n j →
      (r.stepN (n + 1)).state.location =
        r.grid.offset (r.stepN j).state.location (r.stepN n).state.direction 1 ∧
      (4 ∣ (r.stepN (j + 1)).turned (n - (j + 1)) →
        (r.stepN (n + 1)).state.location =
          r.grid.offset (r.stepN j).state.location (r.stepN j).state.direction 1) := by
  intro r
  have hempty : r.state.callStack = .empty := rfl
  refine ⟨depth_add_executions hempty n, ?_, direction_stepN r n, existsUnique_answers hempty, ?_⟩
  · obtain ⟨steps, hsteps⟩ := exists_tracked hempty n
    rw [hsteps.calls_eq, ← List.map_reverse, hsteps.reverse_eq]
  · intro j hans
    have hlocation := location_of_answers hempty hans
    refine ⟨hlocation, ?_⟩
    intro hfour
    -- the call itself does not turn, so the turns in between are those of the machine after it
    have hunit := (m.placed_run_stepN (j + 1)).direction
    have hsame := direction_of_four_dvd hunit hfour
    rw [← stepN_add, Nat.add_sub_cancel' hans.1, stepN_succ, direction_step_of_call hans.2.1]
      at hsame
    rw [hlocation, hsame]

/-- A function that turns four times before it returns to its call in the corner. -/
def spiral : Grid :=
  .paint 3 4
    #[⟨6, 0, 0⟩, ⟨6, 0, 0⟩, ⟨6, 0, 0⟩,
      ⟨3, 5, 1⟩, ⟨6, 0, 0⟩, ⟨255, 0, 0⟩,
      ⟨255, 0, 0⟩, ⟨5, 0, 0⟩, ⟨6, 0, 0⟩,
      ⟨6, 0, 0⟩, ⟨0, 0, 0⟩, ⟨10, 0, 1⟩]
    (by decide)

/-- In the spiral, the return in step 11 answers the call in step 4 and goes on past it. -/
theorem callStack_run_spiral :
    let r := (Machine.new spiral .empty).run
    r.Answers 11 4 ∧ (r.stepN 5).turned 6 = 4 ∧
      (r.stepN 11).state.callStack.depth + r.executions .ret 11 = r.executions .call 11 ∧
      (∃! j, r.Answers 11 j) ∧
      (r.stepN 12).state.location =
        r.grid.offset (r.stepN 4).state.location (r.stepN 4).state.direction 1 := by
  intro r
  have hret : (r.stepN 11).executed? = some .ret := by decide +kernel
  have hanswers : r.Answers 11 4 := by decide +kernel
  have hturned : (r.stepN 5).turned 6 = 4 := by decide +kernel
  obtain ⟨hdepth, -, -, hunique, hreturn⟩ := callStack_run (Machine.new spiral .empty) 11
  exact ⟨hanswers, hturned, hdepth, hunique hret, (hreturn 4 hanswers).2 ⟨1, hturned⟩⟩

end Machine

end PixelMachine
