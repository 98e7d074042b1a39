import PixelMachine.Proofs.Lifecycle
import PixelMachine.Rig
import Mathlib.Order.Bounds.Basic

/-!
# Driving is stepping up to a limit

A run stays in the running state up to some step that halts it or fails, or for good. `Machine.course`
says how far a given number of steps gets: through, or to the first step that halts or fails.

Driving makes the same steps. As long as steps succeed and leave the machine running, and the limit is not
reached, the drive carries on (`Machine.continues_run_stepN`), so where it ends is a matter of the one step
after them: `Machine.drive_of_halted`, `Machine.drive_of_failed` and `Machine.drive_of_running`. It does not
end exactly if there is no limit and the program never stops (`Machine.drive_eq_none_iff`). A test rig that
is stepped goes on stepping after a halt, which changes nothing, and aborts with the step that fails.

The main result is `Machine.drive_eq_stepN`.
-/

set_option autoImplicit false

namespace PixelMachine

/-! ## Runs of steps -/

namespace Machine

variable {m : Machine} {k n : Nat}

/-- Up to the first status of some kind, a machine is running. -/
theorem running_of_isLeast {P : Status → Prop} (h : IsLeast {j | P (m.stepN j).status} n)
    (hkn : k < n) : (m.stepN k).status = .running := by
  by_contra hrun
  have hmem : P (m.stepN k).status := stepN_eq_of_le hrun hkn.le ▸ h.1
  exact absurd (h.2 hmem) (Nat.not_le_of_lt hkn)

/-- A step of a run succeeds unless the machine is faulted after it. -/
theorem result_eq_ok_of_status (m : Machine) {t : Nat}
    (h : ∀ code, (m.run.stepN (t + 1)).status ≠ .faulted code) :
    (m.run.stepN t).step.result = .ok () := by
  cases hresult : (m.run.stepN t).step.result with
  | ok u => rfl
  | error error =>
    obtain ⟨fault, -, hstatus, -⟩ := step_of_error (fun _ => (m.placed_run_stepN t).cursor) hresult
    rw [← stepN_succ] at hstatus
    exact absurd hstatus (h fault.code)

/-- While a machine is running, its steps succeed. -/
theorem result_eq_ok_of_running (hrun : ∀ t ≤ k, (m.run.stepN t).status = .running) :
    ∀ t < k, (m.run.stepN t).step.result = .ok () := by
  intro t ht
  refine m.result_eq_ok_of_status fun code => ?_
  rw [hrun (t + 1) ht]
  exact Status.noConfusion

/-- A run that has not stopped counts its steps. -/
theorem steps_run_stepN (hrun : ∀ t < k, (m.run.stepN t).status = .running) :
    (m.run.stepN k).steps = k := by
  induction k with
  | zero => rfl
  | succ k ih =>
    have hprev := ih fun t ht => hrun t (Nat.lt_succ_of_lt ht)
    have hstep := (step_of_running_cases (hrun k (Nat.lt_succ_self k))
      (m.placed_run_stepN k).cursor).1
    rw [stepN_succ, hstep, hprev]

/-- How far a number of steps from the start of a run gets. -/
inductive Course (m : Machine) (n : Nat) : Prop where
  /-- All the way. -/
  | running (hrun : ∀ t ≤ n, (m.run.stepN t).status = .running)
  /-- To a step that halts the machine. -/
  | halted (k : Nat) (hk : k < n) (hrun : ∀ t ≤ k, (m.run.stepN t).status = .running)
      (hhalted : (m.run.stepN (k + 1)).status = .halted)
  /-- To a step that fails. -/
  | failed (k : Nat) (hk : k < n) (hrun : ∀ t ≤ k, (m.run.stepN t).status = .running)
      (fault : Fault) (hstatus : (m.run.stepN (k + 1)).status = .faulted fault.code)
      (herror : (m.run.stepN k).step.result =
        .error (.uncaught fault.code fault (m.run.stepN k).state.location))

/-- There is no other way for a run to go. -/
theorem course (m : Machine) (n : Nat) : m.Course n := by
  induction n with
  | zero =>
    refine .running fun t ht => ?_
    obtain rfl := Nat.le_zero.1 ht
    rfl
  | succ n ih =>
    cases ih with
    | halted k hk hrun hhalted => exact .halted k (Nat.lt_succ_of_lt hk) hrun hhalted
    | failed k hk hrun fault hstatus herror =>
      exact .failed k (Nat.lt_succ_of_lt hk) hrun fault hstatus herror
    | running hrun =>
      obtain ⟨-, ⟨-, hstatus, -⟩ | ⟨-, hstatus, -⟩ | ⟨fault, herror, hstatus, -⟩⟩ :=
        step_of_running_cases (hrun n (Nat.le_refl n)) (m.placed_run_stepN n).cursor
      all_goals rw [← stepN_succ] at hstatus
      · refine .running fun t ht => ?_
        obtain hle | rfl := Nat.le_succ_iff.1 ht
        · exact hrun t hle
        · exact hstatus
      · exact .halted n (Nat.lt_succ_self n) hrun hstatus
      · exact .failed n (Nat.lt_succ_self n) hrun fault hstatus herror

/-! ## Driving -/

/-- A drive carries on with a run that goes on, as far as its limit allows. -/
theorem continues_run_stepN {limit : Nat} (hk : limit = 0 ∨ k ≤ limit)
    (hrun : ∀ t < k, (m.run.stepN t).status = .running)
    (hok : ∀ t < k, (m.run.stepN t).step.result = .ok ()) :
    ∀ t < k, (m.run.stepN t).Continues limit := by
  intro t ht
  have hsteps : (m.run.stepN t).steps = t := steps_run_stepN fun j hj => hrun j (Nat.lt_trans hj ht)
  exact ⟨decide_eq_true (hrun t ht), isSpent_eq_false_iff.2 (by omega), hok t ht⟩

/-- A drive that a halt ends. -/
theorem drive_of_halted {limit : Nat} (hk : limit = 0 ∨ k < limit)
    (hrun : ∀ t ≤ k, (m.run.stepN t).status = .running)
    (hhalted : (m.run.stepN (k + 1)).status = .halted) :
    ∃ d, m.drive limit = some d ∧ d.machine = m.run.stepN (k + 1) ∧
      d.result = .ok ⟨k + 1, (m.run.stepN (k + 1)).state.output.text⟩ := by
  have hrun' : ∀ t < k + 1, (m.run.stepN t).status = .running :=
    fun t ht => hrun t (Nat.le_of_lt_succ ht)
  have hok : ∀ t < k + 1, (m.run.stepN t).step.result = .ok () := by
    intro t ht
    obtain hlt | rfl := Nat.lt_succ_iff_lt_or_eq.1 ht
    · exact result_eq_ok_of_running hrun t hlt
    · refine m.result_eq_ok_of_status fun code => ?_
      rw [hhalted]
      exact Status.noConfusion
  have hstopped : (m.run.stepN (k + 1)).isRunning = false := by
    rw [isRunning, hhalted]
    rfl
  have hbefore := continues_run_stepN (hk.imp_right Nat.succ_le_of_lt) hrun' hok
  refine ⟨_, (drain_stepN hbefore _).trans (Ends.finished hstopped).drain_eq, rfl, ?_⟩
  rw [finish, steps_run_stepN hrun']

/-- A drive that a failed step ends. -/
theorem drive_of_failed {limit : Nat} {error : StepError} (hk : limit = 0 ∨ k < limit)
    (hrun : ∀ t ≤ k, (m.run.stepN t).status = .running)
    (herror : (m.run.stepN k).step.result = .error error) :
    ∃ d, m.drive limit = some d ∧ d.machine = m.run.stepN (k + 1) ∧
      d.result = .error (.step error) := by
  have hrunning : (m.run.stepN k).isRunning = true := decide_eq_true (hrun k (Nat.le_refl k))
  have hsteps : (m.run.stepN k).steps = k := steps_run_stepN fun t ht => hrun t ht.le
  have hleft : (m.run.stepN k).isSpent limit = false := isSpent_eq_false_iff.2 (by omega)
  have hbefore := continues_run_stepN (hk.imp_right Nat.le_of_lt) (fun t ht => hrun t ht.le)
    (result_eq_ok_of_running hrun)
  exact ⟨_, (drain_stepN hbefore _).trans (Ends.failed hrunning hleft herror).drain_eq,
    (stepN_succ m.run k).symm, rfl⟩

/-- A drive that its limit ends. -/
theorem drive_of_running (m : Machine) {limit : Nat} (hlimit : limit ≠ 0)
    (hrun : ∀ t ≤ limit, (m.run.stepN t).status = .running) :
    ∃ d, m.drive limit = some d ∧ d.machine = m.run.stepN limit ∧
      d.result = .error (.stepLimit limit) := by
  have hrunning : (m.run.stepN limit).isRunning = true := decide_eq_true (hrun _ (Nat.le_refl _))
  have hsteps : (m.run.stepN limit).steps = limit := steps_run_stepN fun t ht => hrun t ht.le
  have hspent : (m.run.stepN limit).isSpent limit = true := by
    rw [← Bool.not_eq_false, isSpent_eq_false_iff]
    omega
  have hbefore := continues_run_stepN (.inr (Nat.le_refl limit)) (fun t ht => hrun t ht.le)
    (result_eq_ok_of_running hrun)
  exact ⟨_, (drain_stepN hbefore _).trans (Ends.spent hrunning hspent).drain_eq, rfl, rfl⟩

/-- A program that is halted first after so many steps. -/
theorem drive_of_isLeast_halted {limit : Nat} (hk : limit = 0 ∨ k ≤ limit)
    (hleast : IsLeast {j | (m.run.stepN j).status = .halted} k) :
    ∃ d, m.drive limit = some d ∧ d.machine = m.run.stepN k ∧
      d.result = .ok ⟨k, (m.run.stepN k).state.output.text⟩ := by
  -- the start itself is running, so there is a step that halts
  obtain _ | j := k
  · cases hleast.1
  · have hrun : ∀ t ≤ j, (m.run.stepN t).status = .running := fun t ht =>
      running_of_isLeast (P := fun status => status = .halted) hleast (Nat.lt_succ_of_le ht)
    exact drive_of_halted hk hrun hleast.1

/-- A program that is faulted first after so many steps. -/
theorem drive_of_isLeast_faulted {limit : Nat} (hk : limit = 0 ∨ k ≤ limit)
    (hleast : IsLeast {j | ∃ code, (m.run.stepN j).status = .faulted code} k) :
    ∃ j error d, k = j + 1 ∧ (m.run.stepN j).step.result = .error error ∧
      m.drive limit = some d ∧ d.machine = m.run.stepN k ∧ d.result = .error (.step error) := by
  obtain ⟨code, hstatus⟩ := hleast.1
  obtain _ | j := k
  · cases hstatus
  · have hrun : ∀ t ≤ j, (m.run.stepN t).status = .running := fun t ht =>
      running_of_isLeast (P := fun status => ∃ code, status = .faulted code) hleast
        (Nat.lt_succ_of_le ht)
    rw [stepN_succ] at hstatus
    obtain ⟨fault, location, herror⟩ := (status_step_eq_faulted_iff (hrun j (Nat.le_refl j))
      (m.placed_run_stepN j).cursor).1 hstatus
    obtain ⟨d, hdrive⟩ := drive_of_failed hk hrun herror
    exact ⟨j, _, d, rfl, herror, hdrive⟩

/-- A program that has stopped after so many steps has one result, with every larger limit and without one. -/
theorem exists_drive_of_stopped (h : (m.run.stepN n).status ≠ .running) :
    ∃ result, (∀ limit, result ≠ .error (.stepLimit limit)) ∧
      ∀ limit, limit = 0 ∨ n ≤ limit →
        ∃ d, m.drive limit = some d ∧ d.machine = m.run.stepN n ∧ d.result = result := by
  cases m.course n with
  | running hrun => exact absurd (hrun n (Nat.le_refl n)) h
  | halted k hk hrun hhalted =>
    refine ⟨.ok ⟨k + 1, (m.run.stepN (k + 1)).state.output.text⟩,
      fun _ => nofun, fun limit hn => ?_⟩
    rw [stepN_eq_of_le (not_running_of_halted hhalted) hk]
    exact drive_of_halted (hn.imp_right fun hle => Nat.lt_of_lt_of_le hk hle) hrun hhalted
  | failed k hk hrun fault hstatus herror =>
    refine ⟨.error (.step (.uncaught fault.code fault (m.run.stepN k).state.location)),
      fun _ => nofun, fun limit hn => ?_⟩
    rw [stepN_eq_of_le (not_running_of_faulted hstatus) hk]
    exact drive_of_failed (hn.imp_right fun hle => Nat.lt_of_lt_of_le hk hle) hrun herror

/-- A drive comes to no end exactly if it has no limit and the program never stops. -/
theorem drive_eq_none_iff {limit : Nat} :
    m.drive limit = none ↔ limit = 0 ∧ ∀ n, (m.run.stepN n).status = .running := by
  constructor
  · intro h
    refine ⟨?_, ?_⟩
    · by_contra hlimit
      obtain ⟨d, hd⟩ := m.exists_drive limit hlimit
      cases h.symm.trans hd
    · intro n
      rcases drain_cases limit m.run _ with ⟨-, hcontinues⟩ | ⟨k, d, hd, -⟩
      · exact of_decide_eq_true (hcontinues n).running
      · cases h.symm.trans hd
  · rintro ⟨rfl, hrun⟩
    refine drain_eq_none (fun n => ?_) _
    have hn : n < n + 1 := Nat.lt_succ_self n
    exact continues_run_stepN (.inl rfl) (fun t _ => hrun t)
      (result_eq_ok_of_running fun t _ => hrun t) n hn

end Machine

/-! ## Rigs -/

namespace Rig

open Machine

variable {m : Machine} {k : Nat}

/-- As long as steps succeed, a rig counts them off. -/
theorem runSteps_add (left : Nat) (hok : ∀ t < k, (m.stepN t).step.result = .ok ()) :
    (Rig.mk m).runSteps (k + left) = (Rig.mk (m.stepN k)).runSteps left := by
  induction k generalizing m with
  | zero => rw [Nat.zero_add]; rfl
  | succ k ih =>
    have hresult : m.step.result = .ok () := hok 0 (Nat.succ_pos k)
    have hrest := ih (m := m.step.machine) fun t ht => hok (t + 1) (Nat.succ_lt_succ ht)
    rw [Nat.add_right_comm, runSteps, step, hresult]
    exact hrest

/-- A rig stops stepping with the step that fails. -/
theorem runSteps_of_error {error : StepError} (left : Nat) (herror : m.step.result = .error error) :
    (Rig.mk m).runSteps (left + 1) = (⟨m.step.machine⟩, .error (.step error)) := by
  rw [runSteps, step, herror]
  rfl

/-- Steps that succeed are all carried out. -/
theorem runSteps_of_ok {n : Nat} (hok : ∀ t < n, (m.stepN t).step.result = .ok ()) :
    (Rig.mk m).runSteps n = (⟨m.stepN n⟩, .ok ()) :=
  runSteps_add 0 hok

/-- A rig does as the drive of its machine does. -/
theorem tryRun_of_drive {limit : Nat} {d : Drive} (h : m.drive limit = some d) :
    (Rig.mk m).tryRun limit = some (⟨d.machine⟩, d.result) := by
  rw [tryRun, h, Option.map_some]

/-- A rig that is started and stepped gets as far as one that is driven, and aborts if the other one
fails. -/
theorem runSteps_start (m : Machine) {n : Nat} (hn : 1 ≤ n) :
    ∃ r, (Rig.mk m).tryRun n = some r ∧ ((Rig.mk m).start.runSteps n).1 = r.1 ∧
      ∀ abort, ((Rig.mk m).start.runSteps n).2 = .error abort ↔
        ∃ error, abort = .step error ∧ r.2 = .error (.step error) := by
  rw [start]
  cases m.course n with
  | running hrun =>
    obtain ⟨d, hd, hmachine, hresult⟩ := m.drive_of_running (Nat.ne_of_gt hn) hrun
    refine ⟨_, tryRun_of_drive hd, ?_⟩
    rw [hmachine, hresult, runSteps_of_ok (result_eq_ok_of_running hrun)]
    simp
  | halted k hk hrun hhalted =>
    have hstopped := not_running_of_halted hhalted
    have hok : ∀ t < n, (m.run.stepN t).step.result = .ok () := by
      intro t ht
      refine m.result_eq_ok_of_status fun code => ?_
      by_cases hle : t + 1 ≤ k
      · rw [hrun (t + 1) hle]
        exact Status.noConfusion
      · -- the rig goes on stepping the halted machine
        rw [stepN_eq_of_le hstopped (show k + 1 ≤ t + 1 by omega), hhalted]
        exact Status.noConfusion
    obtain ⟨d, hd, hmachine, hresult⟩ := drive_of_halted (.inr hk) hrun hhalted
    refine ⟨_, tryRun_of_drive hd, ?_⟩
    rw [hmachine, hresult, runSteps_of_ok hok, stepN_eq_of_le hstopped hk]
    simp
  | failed k hk hrun fault hstatus herror =>
    obtain ⟨left, rfl⟩ := Nat.exists_eq_add_of_le (Nat.succ_le_of_lt hk)
    obtain ⟨d, hd, hmachine, hresult⟩ := drive_of_failed (.inr hk) hrun herror
    refine ⟨_, tryRun_of_drive hd, ?_⟩
    rw [hmachine, hresult, Nat.succ_add_eq_add_succ, runSteps_add _ (result_eq_ok_of_running hrun),
      runSteps_of_error left herror, stepN_succ]
    simp [eq_comm]

end Rig

namespace Machine

/-- Driving is stepping up to a limit. A program that halts with step `k`, at the limit at the latest,
is reported with `k` steps and its output; of one that fails with step `k`, the error of this step is
reported; either way the machine is left as after `k` steps. Any other program is left running after as
many steps as the limit says, and that is what is reported. A drive that its limit does not end has the
same result with any larger limit, and without a limit. A rig that is started and then stepped as often
as the limit says gets to the same machine, and aborts exactly if the drive reports the error of a step.
-/
theorem drive_eq_stepN (m : Machine) {n : Nat} (hn : 1 ≤ n) :
    let s := m.run.stepN
    ∃ d, m.drive n = some d ∧
    (∀ k ≤ n, IsLeast {j | (s j).status = .halted} k →
      d.result = .ok ⟨k, (s k).state.output.text⟩ ∧ d.machine = s k) ∧
    (∀ k ≤ n, IsLeast {j | ∃ code, (s j).status = .faulted code} k →
      ∃ j error, k = j + 1 ∧ (s j).step.result = .error error ∧
        d.result = .error (.step error) ∧ d.machine = s k) ∧
    ((∀ k ≤ n, (s k).status ≠ .halted ∧ ∀ code, (s k).status ≠ .faulted code) →
      d.result = .error (.stepLimit n) ∧ d.machine = s n ∧
        (s n).status = .running ∧ (s n).steps = n) ∧
    ((s n).status ≠ .running → ∀ limit, d.result ≠ .error (.stepLimit limit)) ∧
    ((∀ limit, d.result ≠ .error (.stepLimit limit)) →
      ∀ limit, n ≤ limit ∨ limit = 0 →
        ∃ d', m.drive limit = some d' ∧ d'.result = d.result ∧ d'.machine = d.machine) ∧
    ∃ r, (Rig.mk m).tryRun n = some r ∧ ((Rig.mk m).start.runSteps n).1 = r.1 ∧
      ∀ abort, ((Rig.mk m).start.runSteps n).2 = .error abort ↔
        ∃ error, abort = .step error ∧ r.2 = .error (.step error) := by
  intro s
  obtain ⟨d, hd⟩ := m.exists_drive n (Nat.ne_of_gt hn)
  refine ⟨d, hd, ?_, ?_, ?_, ?_, ?_, Rig.runSteps_start m hn⟩
  · intro k hkn hleast
    obtain ⟨d', hd', hmachine, hresult⟩ := drive_of_isLeast_halted (.inr hkn) hleast
    cases hd.symm.trans hd'
    exact ⟨hresult, hmachine⟩
  · intro k hkn hleast
    obtain ⟨j, error, d', hj, herror, hd', hmachine, hresult⟩ :=
      drive_of_isLeast_faulted (.inr hkn) hleast
    cases hd.symm.trans hd'
    exact ⟨j, error, hj, herror, hresult, hmachine⟩
  · intro hgoes
    cases m.course n with
    | running hrun =>
      obtain ⟨d', hd', hmachine, hresult⟩ := m.drive_of_running (Nat.ne_of_gt hn) hrun
      cases hd.symm.trans hd'
      exact ⟨hresult, hmachine, hrun n (Nat.le_refl n), steps_run_stepN fun t ht => hrun t ht.le⟩
    | halted k hk hrun hhalted => exact absurd hhalted (hgoes (k + 1) hk).1
    | failed k hk hrun fault hstatus herror => exact absurd hstatus ((hgoes (k + 1) hk).2 fault.code)
  · intro hstopped limit
    obtain ⟨result, hends, hdrive⟩ := exists_drive_of_stopped hstopped
    obtain ⟨d', hd', -, hresult⟩ := hdrive n (.inr (Nat.le_refl n))
    cases hd.symm.trans hd'
    rw [hresult]
    exact hends limit
  · intro hends limit hlimit
    have hstopped : (s n).status ≠ .running := by
      intro hrun
      obtain ⟨d', hd', -, hresult⟩ := m.drive_of_running (Nat.ne_of_gt hn) fun t ht => running_of_le hrun ht
      cases hd.symm.trans hd'
      exact hends n hresult
    obtain ⟨result, -, hdrive⟩ := exists_drive_of_stopped hstopped
    obtain ⟨d₁, hd₁, hmachine₁, hresult₁⟩ := hdrive n (.inr (Nat.le_refl n))
    obtain ⟨d', hd', hmachine, hresult⟩ := hdrive limit hlimit.symm
    cases hd.symm.trans hd₁
    exact ⟨d', hd', hresult.trans hresult₁.symm, hmachine.trans hmachine₁.symm⟩

/-- A program that prints the code it has read. -/
def echo : Grid := .paint 3 1 #[⟨9, 0, 1⟩, ⟨8, 0, 1⟩, ⟨0, 0, 0⟩] (by decide)

/-- A program that halts with its third step halts within a limit of three, and has the same result
without a limit. -/
theorem drive_eq_stepN_echo :
    let m := new echo (.ofCodes [113])
    ∃ d, m.drive 3 = some d ∧ d.result = .ok ⟨3, "q"⟩ ∧ d.machine = m.run.stepN 3 ∧
      ∃ d', m.drive 0 = some d' ∧ d'.result = .ok ⟨3, "q"⟩ := by
  intro m
  have hleast : IsLeast {j | (m.run.stepN j).status = .halted} 3 := by
    refine ⟨by decide +kernel, ?_⟩
    intro j hj
    by_contra hlt
    have hrun : ∀ t < 3, (m.run.stepN t).status = .running := by decide +kernel
    cases (hrun j (by omega)).symm.trans hj
  have houtput : (m.run.stepN 3).state.output.text = "q" := by decide +kernel
  obtain ⟨d, hd, hhalted, -, -, -, hlarger, -⟩ := drive_eq_stepN m (by decide : 1 ≤ 3)
  obtain ⟨hresult, hmachine⟩ := hhalted 3 (Nat.le_refl 3) hleast
  rw [houtput] at hresult
  have hends : ∀ limit, d.result ≠ .error (.stepLimit limit) := by
    rw [hresult]
    exact fun _ => nofun
  obtain ⟨d', hd', hresult', -⟩ := hlarger hends 0 (.inr rfl)
  exact ⟨d, hd, hresult, hmachine, d', hd', hresult'.trans hresult⟩

end Machine

end PixelMachine
