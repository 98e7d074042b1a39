import PixelMachine.Proofs.History
import Mathlib.Order.Bounds.Basic

/-!
# Functions and handlers of a run

What a machine holds as a function or as its pending handler was put there by some step of the run. A
definition writes one function; a try writes the handler, and a fault clears it, whether it is recovered
from or not. Nothing else writes either, so what is there was written by the latest step that wrote it.

`Machine.read_stepN` is this argument for any part of a machine of which each step is known either to
write it or to leave it alone. It is used twice: with `Machine.functionWritten?` for a function, and
with `Machine.handlerWritten?` for the handler. The main result is `Machine.bindings_run`; it also says
what follows for faults, which are fatal unless a try has been executed since the fault before.
-/

set_option autoImplicit false

namespace PixelMachine

namespace Machine

variable {m : Machine}

/-! ## The latest step that wrote -/

variable {α : Type}

/-- What can be read after some steps is what the latest of them to write has written, or, if none of
them wrote, what could be read before. -/
theorem read_stepN (read : Machine → α) (written? : Machine → Option α)
    (hstep : ∀ m, read m.step.machine = (written? m).getD (read m)) (m : Machine) (n : Nat) :
    (∃ t, IsGreatest {t | t < n ∧ (written? (m.stepN t)).isSome} t ∧
      written? (m.stepN t) = some (read (m.stepN n))) ∨
    ((∀ t < n, written? (m.stepN t) = none) ∧ read (m.stepN n) = read m) := by
  induction n with
  | zero => exact .inr ⟨fun t ht => absurd ht (Nat.not_lt_zero t), rfl⟩
  | succ n ih =>
    cases hlast : written? (m.stepN n) with
    | some a =>
      left
      refine ⟨n, ⟨⟨Nat.lt_succ_self n, by rw [hlast]; rfl⟩, ?_⟩, ?_⟩
      · intro t ht
        exact Nat.le_of_lt_succ ht.1
      · rw [hlast, stepN_succ, hstep, hlast, Option.getD_some]
    | none =>
      -- the last step wrote nothing, so the latest step that wrote is the same as before it
      have hread : read (m.stepN (n + 1)) = read (m.stepN n) := by
        rw [stepN_succ, hstep, hlast, Option.getD_none]
      have hlt : ∀ t, t < n + 1 → (written? (m.stepN t)).isSome → t < n := by
        intro t ht hwritten
        have hne : t ≠ n := by
          rintro rfl
          rw [hlast] at hwritten
          cases hwritten
        omega
      rcases ih with ⟨t, ⟨⟨htn, hsome⟩, hmax⟩, hvalue⟩ | ⟨hnone, hsame⟩
      · left
        refine ⟨t, ⟨⟨Nat.lt_succ_of_lt htn, hsome⟩, ?_⟩, hvalue.trans (by rw [hread])⟩
        intro u hu
        exact hmax ⟨hlt u hu.1 hu.2, hu.2⟩
      · right
        refine ⟨?_, hread.trans hsame⟩
        intro t ht
        by_contra hwritten
        have htn := hlt t ht (Option.isSome_iff_ne_none.2 hwritten)
        exact hwritten (hnone t htn)

/-- A value that could not be read before is read after some steps exactly if the latest of them to
write has written it. -/
theorem read_stepN_eq_iff (read : Machine → α) (written? : Machine → Option α)
    (hstep : ∀ m, read m.step.machine = (written? m).getD (read m)) {a : α} (ha : read m ≠ a)
    (n : Nat) :
    read (m.stepN n) = a ↔
      ∃ t, IsGreatest {t | t < n ∧ (written? (m.stepN t)).isSome} t ∧
        written? (m.stepN t) = some a := by
  rcases read_stepN read written? hstep m n with ⟨t, hlatest, hvalue⟩ | ⟨hnone, hsame⟩
  · constructor
    · rintro rfl
      exact ⟨t, hlatest, hvalue⟩
    · rintro ⟨u, hlatest', hvalue'⟩
      rw [hlatest'.unique hlatest, hvalue] at hvalue'
      exact Option.some.inj hvalue'
  · constructor
    · intro h
      exact absurd (hsame.symm.trans h) ha
    · rintro ⟨u, ⟨⟨hun, hsome⟩, -⟩, -⟩
      rw [hnone u hun] at hsome
      cases hsome

/-! ## What a step writes -/

/-- The next step executes a definition of the function with this number. -/
def Defines (m : Machine) (id : UInt8) : Prop :=
  ∃ green, m.deed? = some (.executed ⟨.defineFunction, green, id⟩)

/-- The next step executes a try. -/
def Tries (m : Machine) : Prop :=
  ∃ green blue, m.deed? = some (.executed ⟨.defineTry, green, blue⟩)

/-- The next step raises a fault. -/
def Raises (m : Machine) : Prop := ∃ fault, m.deed? = some (.raised fault)

/-- The next step raises a fault and recovers from it. -/
def Recovers (m : Machine) : Prop := m.Raises ∧ m.step.result = .ok ()

/-- What the next step makes of a function, if it makes anything of it. -/
def functionWritten? (m : Machine) (id : UInt8) : Option (Option FunctionSlot) :=
  match m.deed? with
  | some (.executed ⟨.defineFunction, green, blue⟩) =>
    if blue = id then some (some ⟨m.state.location, green⟩) else none
  | _ => none

/-- What the next step makes of the pending handler, if it makes anything of it. -/
def handlerWritten? (m : Machine) : Option (Option TryHandler) :=
  match m.deed? with
  | some (.executed ⟨.defineTry, _, blue⟩) => some (some ⟨m.state.location, blue⟩)
  | some (.raised _) => some none
  | _ => none

/-- A try raises no fault. -/
theorem not_raises_of_tries (h : m.Tries) : ¬ m.Raises := by
  obtain ⟨green, blue, htry⟩ := h
  rintro ⟨fault, hraised⟩
  cases htry.symm.trans hraised

/-- Only definitions write functions, and what they write is bound. -/
theorem functionWritten?_eq_some_iff {id : UInt8} {written : Option FunctionSlot} :
    m.functionWritten? id = some written ↔
      ∃ slot, written = some slot ∧ slot.location = m.state.location ∧
        m.deed? = some (.executed ⟨.defineFunction, slot.param, id⟩) := by
  constructor
  · intro h
    unfold functionWritten? at h
    split at h
    · next green blue hdeed =>
      split at h
      · next hid =>
        subst hid
        cases h
        exact ⟨_, rfl, rfl, hdeed⟩
      · cases h
    · cases h
  · rintro ⟨⟨location, param⟩, rfl, rfl, hdeed⟩
    simp only [functionWritten?, hdeed, if_true]

/-- A function is written exactly by its definitions. -/
theorem functionWritten?_isSome_iff {id : UInt8} : (m.functionWritten? id).isSome ↔ m.Defines id := by
  rw [Option.isSome_iff_exists]
  constructor
  · rintro ⟨written, h⟩
    obtain ⟨slot, -, -, hdeed⟩ := functionWritten?_eq_some_iff.1 h
    exact ⟨slot.param, hdeed⟩
  · rintro ⟨green, hdeed⟩
    exact ⟨_, functionWritten?_eq_some_iff.2 ⟨⟨m.state.location, green⟩, rfl, rfl, hdeed⟩⟩

/-- A handler is written by a try, and by nothing else. -/
theorem handlerWritten?_eq_some_some_iff {handler : TryHandler} :
    m.handlerWritten? = some (some handler) ↔
      handler.location = m.state.location ∧
        ∃ green, m.deed? = some (.executed ⟨.defineTry, green, handler.dest⟩) := by
  constructor
  · intro h
    unfold handlerWritten? at h
    split at h
    · next green blue hdeed =>
      cases h
      exact ⟨rfl, green, hdeed⟩
    · cases h
    · cases h
  · obtain ⟨location, dest⟩ := handler
    rintro ⟨rfl, green, hdeed⟩
    simp only [handlerWritten?, hdeed]

/-- The handler is written exactly by tries and by faults. -/
theorem handlerWritten?_isSome_iff : m.handlerWritten?.isSome ↔ m.Tries ∨ m.Raises := by
  constructor
  · intro h
    unfold handlerWritten? at h
    split at h
    · next green blue hdeed => exact .inl ⟨green, blue, hdeed⟩
    · next fault hdeed => exact .inr ⟨fault, hdeed⟩
    · cases h
  · rintro (⟨green, blue, hdeed⟩ | ⟨fault, hdeed⟩)
    all_goals simp only [handlerWritten?, hdeed, Option.isSome_some]

/-- A step keeps a function that it does not write. -/
theorem function?_step (m : Machine) (id : UInt8) :
    m.step.machine.state.function? id = (m.functionWritten? id).getD (m.state.function? id) := by
  rcases step_cases m with ⟨hdeed, h⟩ | ⟨i, t, hdeed, hexec, h, -⟩ |
    ⟨fault, handler, hdeed, -, h, -⟩ | ⟨fault, hdeed, -, h, -⟩
  · rw [h, functionWritten?, hdeed, Option.getD_none]
  · rw [h, functionWritten?, hdeed]
    cases hexec with
    | defineFunction green blue =>
      have hbind := State.function?_bindFunction m.state blue id ⟨m.state.location, green⟩
      refine Eq.trans hbind ?_
      dsimp only
      split <;> rfl
    | _ => rfl
  · rw [h, functionWritten?, hdeed]
    rfl
  · rw [h, functionWritten?, hdeed]
    rfl

/-- A step keeps the handler if it does not write it. -/
theorem tryHandler_step (m : Machine) :
    m.step.machine.state.tryHandler = m.handlerWritten?.getD m.state.tryHandler := by
  rcases step_cases m with ⟨hdeed, h⟩ | ⟨i, t, hdeed, hexec, h, -⟩ |
    ⟨fault, handler, hdeed, -, h, -⟩ | ⟨fault, hdeed, htry, h, -⟩
  · rw [h, handlerWritten?, hdeed, Option.getD_none]
  · rw [h, handlerWritten?, hdeed]
    cases hexec with
    | _ => rfl
  · rw [h, handlerWritten?, hdeed]
    rfl
  · -- a fatal fault clears a slot that was empty already
    rw [h, handlerWritten?, hdeed]
    exact htry

/-! ## Functions and handlers of a run -/

/-- A function is bound as the latest of its definitions says. -/
theorem function?_run_eq_some_iff (m : Machine) (n : Nat) (id : UInt8) (slot : FunctionSlot) :
    (m.run.stepN n).state.function? id = some slot ↔
      ∃ t, IsGreatest {t | t < n ∧ (m.run.stepN t).Defines id} t ∧
        slot.location = (m.run.stepN t).state.location ∧
        (m.run.stepN t).deed? = some (.executed ⟨.defineFunction, slot.param, id⟩) := by
  have hstart : m.run.state.function? id ≠ some slot := by
    have hnone : m.run.state.function? id = none := ByteTable.get_fill none id
    rw [hnone]
    exact (Option.some_ne_none slot).symm
  rw [read_stepN_eq_iff (fun k => k.state.function? id) (fun k => k.functionWritten? id)
    (fun k => k.function?_step id) hstart n]
  simp only [functionWritten?_isSome_iff, functionWritten?_eq_some_iff, Option.some.injEq,
    exists_eq_left']

/-- A function is bound as soon as a definition of it has been executed. -/
theorem function?_run_isSome_iff (m : Machine) (n : Nat) (id : UInt8) :
    ((m.run.stepN n).state.function? id).isSome ↔ ∃ t < n, (m.run.stepN t).Defines id := by
  constructor
  · intro h
    obtain ⟨slot, hslot⟩ := Option.isSome_iff_exists.1 h
    obtain ⟨t, ⟨⟨htn, hdefines⟩, -⟩, -⟩ := (m.function?_run_eq_some_iff n id slot).1 hslot
    exact ⟨t, htn, hdefines⟩
  · rintro ⟨t, htn, hdefines⟩
    rcases read_stepN (fun k => k.state.function? id) (fun k => k.functionWritten? id)
      (fun k => k.function?_step id) m.run n with ⟨u, -, hvalue⟩ | ⟨hnone, -⟩
    · obtain ⟨slot, hslot, -⟩ := functionWritten?_eq_some_iff.1 hvalue
      rw [hslot]
      rfl
    · have hwritten := functionWritten?_isSome_iff.2 hdefines
      rw [hnone t htn] at hwritten
      cases hwritten

/-- A handler is pending as the latest try says, unless a fault came after it. -/
theorem tryHandler_run_eq_some_iff (m : Machine) (n : Nat) (handler : TryHandler) :
    (m.run.stepN n).state.tryHandler = some handler ↔
      ∃ t, IsGreatest {t | t < n ∧ ((m.run.stepN t).Tries ∨ (m.run.stepN t).Raises)} t ∧
        handler.location = (m.run.stepN t).state.location ∧
        ∃ green, (m.run.stepN t).deed? = some (.executed ⟨.defineTry, green, handler.dest⟩) := by
  have hstart : m.run.state.tryHandler ≠ some handler := (Option.some_ne_none handler).symm
  rw [read_stepN_eq_iff (fun k => k.state.tryHandler) handlerWritten? tryHandler_step hstart n]
  simp only [handlerWritten?_isSome_iff, handlerWritten?_eq_some_some_iff]

/-- A handler is pending exactly if the latest of all tries and faults is a try. -/
theorem tryHandler_run_isSome_iff (m : Machine) (n : Nat) :
    (m.run.stepN n).state.tryHandler.isSome ↔
      ∃ t, IsGreatest {t | t < n ∧ ((m.run.stepN t).Tries ∨ (m.run.stepN t).Raises)} t ∧
        (m.run.stepN t).Tries := by
  rw [Option.isSome_iff_exists]
  constructor
  · rintro ⟨handler, h⟩
    obtain ⟨t, hlatest, -, green, hdeed⟩ := (m.tryHandler_run_eq_some_iff n handler).1 h
    exact ⟨t, hlatest, green, handler.dest, hdeed⟩
  · rintro ⟨t, hlatest, green, blue, hdeed⟩
    refine ⟨⟨(m.run.stepN t).state.location, blue⟩, ?_⟩
    exact (m.tryHandler_run_eq_some_iff n _).2 ⟨t, hlatest, rfl, green, hdeed⟩

/-- A handler that is pending after a fault was installed by a try after it. -/
theorem exists_tries_of_raises {j n : Nat} (hjn : j < n) (hraises : (m.run.stepN j).Raises)
    (hpending : (m.run.stepN n).state.tryHandler.isSome) :
    ∃ t, j < t ∧ t < n ∧ (m.run.stepN t).Tries := by
  obtain ⟨t, ⟨⟨htn, -⟩, hmax⟩, htries⟩ := (m.tryHandler_run_isSome_iff n).1 hpending
  have hle : j ≤ t := hmax ⟨hjn, .inr hraises⟩
  have hne : j ≠ t := by
    rintro rfl
    exact not_raises_of_tries htries hraises
  exact ⟨t, by omega, htn, htries⟩

/-- A fault is recovered from only if a handler is pending. -/
theorem isSome_of_recovers (h : m.Recovers) : m.state.tryHandler.isSome := by
  obtain ⟨⟨fault, hraised⟩, hok⟩ := h
  cases htry : m.state.tryHandler with
  | some handler => rfl
  | none => cases hok.symm.trans (step_of_uncaught hraised htry).2

/-- What a machine holds is a matter of what the run has executed. A function is bound exactly if a
definition of it has been executed, it is as the latest of them says, and no other step changes it. A
handler is pending exactly if of all tries and faults the latest is a try, and it is as this try says.
So between two faults that are recovered from there is a try, and a fault without a try since the fault
before, or since the start, is fatal. -/
theorem bindings_run (m : Machine) (n : Nat) :
    let s := m.run.stepN
    (∀ id, ((s n).state.function? id).isSome ↔ ∃ t < n, (s t).Defines id) ∧
    (∀ id slot, (s n).state.function? id = some slot ↔
      ∃ t, IsGreatest {t | t < n ∧ (s t).Defines id} t ∧
        slot.location = (s t).state.location ∧
        (s t).deed? = some (.executed ⟨.defineFunction, slot.param, id⟩)) ∧
    (∀ id, ¬ (s n).Defines id → (s (n + 1)).state.function? id = (s n).state.function? id) ∧
    ((s n).state.tryHandler.isSome ↔
      ∃ t, IsGreatest {t | t < n ∧ ((s t).Tries ∨ (s t).Raises)} t ∧ (s t).Tries) ∧
    (∀ handler, (s n).state.tryHandler = some handler ↔
      ∃ t, IsGreatest {t | t < n ∧ ((s t).Tries ∨ (s t).Raises)} t ∧
        handler.location = (s t).state.location ∧
        ∃ green, (s t).deed? = some (.executed ⟨.defineTry, green, handler.dest⟩)) ∧
    (∀ j < n, (s j).Recovers → (s n).Recovers → ∃ t, j < t ∧ t < n ∧ (s t).Tries) ∧
    (∀ fault, (s n).deed? = some (.raised fault) →
      ((∀ t < n, ¬ (s t).Tries) ∨
        ∃ j < n, (s j).Raises ∧ ∀ t, j < t → t < n → ¬ (s t).Tries) →
      (s n).step.result = .error (.uncaught fault.code fault (s n).state.location) ∧
        (s (n + 1)).status = .faulted fault.code) := by
  intro s
  refine ⟨m.function?_run_isSome_iff n, m.function?_run_eq_some_iff n, ?_,
    m.tryHandler_run_isSome_iff n, m.tryHandler_run_eq_some_iff n, ?_, ?_⟩
  · intro id hother
    rw [← functionWritten?_isSome_iff, Option.not_isSome_iff_eq_none] at hother
    have hstep := (s n).function?_step id
    rw [hother, Option.getD_none] at hstep
    rw [show s (n + 1) = (s n).step.machine from stepN_succ m.run n, hstep]
  · intro j hjn hearlier hlater
    exact exists_tries_of_raises hjn hearlier.1 (isSome_of_recovers hlater)
  · intro fault hraised hnotry
    have hnone : (s n).state.tryHandler = none := by
      rw [← Option.not_isSome_iff_eq_none]
      intro hpending
      rcases hnotry with hnever | ⟨j, hjn, hraises, hsince⟩
      · obtain ⟨t, ⟨⟨htn, -⟩, -⟩, htries⟩ := (m.tryHandler_run_isSome_iff n).1 hpending
        exact hnever t htn htries
      · obtain ⟨t, hjt, htn, htries⟩ := exists_tries_of_raises hjn hraises hpending
        exact hsince t hjt htn htries
    obtain ⟨hfail, hresult⟩ := step_of_uncaught hraised hnone
    refine ⟨hresult, ?_⟩
    rw [show s (n + 1) = (s n).step.machine from stepN_succ m.run n, hfail]
    rfl

/-- Three returns outside of every call, with two tries on the way to them. -/
def retries : Grid :=
  .paint 3 3
    #[⟨4, 0, 9⟩, ⟨3, 5, 7⟩, ⟨6, 0, 0⟩,
      ⟨4, 0, 8⟩, ⟨255, 0, 0⟩, ⟨5, 0, 0⟩,
      ⟨5, 0, 0⟩, ⟨255, 0, 0⟩, ⟨255, 0, 0⟩]
    (by decide)

/-- The faults in steps 3 and 5 are recovered from, with a try in between, and the one in step 6 is
fatal. The function that was bound in step 1 is bound to the end. -/
theorem bindings_run_retries :
    let s := (Machine.new retries .empty).run.stepN
    ((s 6).state.function? 7).isSome ∧ (∃ t, 3 < t ∧ t < 5 ∧ (s t).Tries) ∧
      (s 6).step.result = .error (.uncaught 6 (.builtin .noFunctionCalled) (s 6).state.location) := by
  intro s
  have hdefines : (s 1).deed? = some (.executed ⟨.defineFunction, 5, 7⟩) := by decide +kernel
  have hnops : ∀ t, 5 < t → t < 6 → ¬ (s t).Tries := fun t hlo hhi => by omega
  have hrecovers : ∀ t handler, (s t).deed? = some (.raised (.builtin .noFunctionCalled)) →
      (s t).state.tryHandler = some handler → (s t).Recovers :=
    fun t handler hraised htry => ⟨⟨_, hraised⟩, (step_of_recovered hraised htry).2⟩
  have hfirst := hrecovers 3 ⟨⟨0, 0⟩, 9⟩ (by decide +kernel) (by decide +kernel)
  have hsecond := hrecovers 5 ⟨⟨0, 1⟩, 8⟩ (by decide +kernel) (by decide +kernel)
  obtain ⟨-, -, -, -, -, hbetween, -⟩ := bindings_run (Machine.new retries .empty) 5
  obtain ⟨hbound, -, -, -, -, -, hfatal⟩ := bindings_run (Machine.new retries .empty) 6
  have hraised : (s 6).deed? = some (.raised (.builtin .noFunctionCalled)) := by decide +kernel
  have hlast := hfatal (.builtin .noFunctionCalled) hraised (.inr ⟨5, by decide, hsecond.1, hnops⟩)
  exact ⟨(hbound 7).2 ⟨1, by decide, 5, hdefines⟩, hbetween 3 (by decide) hfirst hsecond, hlast.1⟩

end Machine

end PixelMachine
