import PixelMachine.CommandLine.Answer
import PixelMachine.CommandLine.Builtin
import PixelMachine.Proofs.SnapshotText
import Mathlib.Data.List.Basic

/-!
# Diagnostics and results

The command has flags for its log. They decide which lines of the log are shown, together with the filter in
the environment, and nothing else: what is printed and the exit code are those of the answer, which knows
neither (`Invocation.answer_trace`).

The command leaves the reading of manifests, the filtering of the log and the writing of JSON to services. Of
the reader nothing is asked. A filter that is written as a list of directives shows an entry if the most
specific directive about it does, and a document that is written is read as it was (`Services.Laws`). The
standard filters ask of each part of the program for one least level (`Log.shows_standardDirectives_iff`), and
the flag lowers this level for the machine and its handlers; so with the flag every line is shown that is shown
without it. The built-in services keep the laws (`Services.laws_builtin`).

The main result is `Invocation.outcome_flags`.
-/

set_option autoImplicit false

namespace PixelMachine

namespace Log

/-! ## Directives -/

/-- A directive of a filter: from which level on entries from some parts of the program are shown. -/
structure Directive where
  /-- The start of the paths of these parts. -/
  target : String
  /-- The least level that is shown. -/
  level : Level
  deriving DecidableEq

namespace Directive

/-- A directive as it is written. -/
def text (d : Directive) : String :=
  if d.target = "" then d.level.word.toLower else d.target ++ "=" ++ d.level.word.toLower

/-- Whether a directive is about entries from a part of the program. -/
def covers (d : Directive) (t : Target) : Bool := d.target.toList.isPrefixOf t.path.toList

end Directive

/-- An entry is shown if the level of the most specific directive about it is enabled. -/
def Shows (directives : List Directive) (h : Heading) : Prop :=
  ∃ d ∈ directives, d.covers h.target ∧
    (∀ other ∈ directives, other.covers h.target → other.target.length ≤ d.target.length) ∧
    d.level.rank ≤ h.level.rank

/-- The directives of the standard filters. -/
def standardDirectives (trace : Bool) : List Directive :=
  [⟨"", .info⟩, ⟨"palettette_vm", if trace then .trace else .info⟩, ⟨"palettette_run", .debug⟩]

/-- The least level that the standard filters show of a part of the program. -/
def leastShown (trace : Bool) : Target → Level
  | .machine | .handlers => if trace then .trace else .info
  | .driver | .commandLine => .debug

/-- Of the directives of a standard filter, the most specific about an entry is the one about its library. -/
theorem shows_standardDirectives_iff {trace : Bool} {h : Heading} :
    Shows (standardDirectives trace) h ↔ (leastShown trace h.target).rank ≤ h.level.rank := by
  obtain ⟨level, target, details⟩ := h
  cases target <;>
    simp [Shows, standardDirectives, Directive.covers, Target.path, leastShown]

/-- The flag lowers the least levels. -/
theorem rank_leastShown_le (t : Target) : (leastShown true t).rank ≤ (leastShown false t).rank := by
  cases t <;> decide

/-- With the flag, every entry is shown that is shown without it. -/
theorem shows_standardDirectives_true {h : Heading} (hquiet : Shows (standardDirectives false) h) :
    Shows (standardDirectives true) h := by
  rw [shows_standardDirectives_iff] at hquiet ⊢
  exact Nat.le_trans (rank_leastShown_le h.target) hquiet

end Log

/-- The content of a file that holds a text is read as this text. -/
theorem Manifest.ofFile_toUTF8 (read : Manifest.Reader) (text : String) :
    Manifest.ofFile read (.ok text.toUTF8) = Manifest.ofYaml read text := by
  have hvalid : String.fromUTF8? text.toUTF8 = some text := by
    unfold String.fromUTF8?
    rw [String.toUTF8_eq_toByteArray, dif_pos text.isValidUTF8]
    rfl
  unfold ofFile
  simp only [Except.mapError, bind, Except.bind, hvalid]

namespace CommandLine

open Json (Value encode decode)

/-! ## Laws of the services -/

/-- What is documented of the services. -/
structure Services.Laws (services : Services) : Prop where
  /-- Of the directives that a standard filter is written with, the most specific about an entry decides whether
  it is shown. -/
  shows : ∀ trace h,
    services.filter (",".intercalate ((Log.standardDirectives trace).map Log.Directive.text)) h = true ↔
      Log.Shows (Log.standardDirectives trace) h
  /-- A document is written as a text that is read as this document. -/
  writes : ∀ v : Value, v.Plain →
    ∃ json, services.writeJson v = .ok json ∧ Value.ofText? json = some v

/-- The standard filters are written as lists of their directives. -/
theorem standardFilter_eq (trace : Bool) :
    standardFilter trace = ",".intercalate ((Log.standardDirectives trace).map Log.Directive.text) := by
  cases trace <;> decide +kernel

/-- Each directive of a standard filter is read as a rule without details. -/
theorem ofText?_standardFilter (trace : Bool) :
    Log.Filter.ofText? (standardFilter trace) =
      some ((Log.standardDirectives trace).map fun d => ⟨d.target, none, some d.level⟩) := by
  cases trace <;> decide +kernel

/-- The built-in services keep the laws. -/
theorem Services.laws_builtin : Services.builtin.Laws where
  shows trace h := by
    rw [Log.shows_standardDirectives_iff, ← standardFilter_eq]
    simp only [builtin, shown?, ofText?_standardFilter, Option.map_some, Option.getD_some,
      Log.Filter.passes_sections]
    obtain ⟨level, target, details⟩ := h
    cases target <;>
      simp [Log.Filter.passes, Log.Filter.about, Log.standardDirectives, Log.Rule.covers, Log.Target.path,
        Log.Filter.admits, Log.Filter.ruleFor?, Log.Rule.isMetBy, Log.Rule.moreSpecific, Log.leastShown]
  writes v hv := ⟨v.pretty, rfl, Value.ofText?_pretty hv⟩

variable {i : Invocation} {services : Services} {content : Except FileError ByteArray}

/-! ## The answer -/

/-- The answer does not know the flag for the log. -/
theorem Invocation.answer_trace (i : Invocation) (services : Services)
    (content : Except FileError ByteArray) (trace : Bool) :
    { i with trace := trace }.answer services content = i.answer services content :=
  rfl

/-- Without a manifest there is nothing to run, and nothing is printed. -/
theorem Invocation.answer_of_ofFile_error {error : ManifestError}
    (h : Manifest.ofFile services.readManifest content = .error error) :
    ∃ a, i.answer services content = some a ∧ a.stdout = "" ∧ a.exitCode = 1 := by
  unfold answer
  rw [h]
  exact ⟨_, rfl, rfl, rfl⟩

/-- Without a grid there is nothing to run, and nothing is printed. -/
theorem Invocation.answer_of_grid_error {manifest : Manifest} {error : ManifestError}
    (h : Manifest.ofFile services.readManifest content = .ok manifest) (hgrid : manifest.grid = .error error) :
    ∃ a, i.answer services content = some a ∧ a.stdout = "" ∧ a.exitCode = 1 := by
  unfold answer Manifest.machine
  rw [h]
  dsimp only
  rw [hgrid]
  exact ⟨_, rfl, rfl, rfl⟩

/-- The program of a manifest is run on the input of the invocation, or else on its own. -/
theorem Invocation.answer_of_grid {manifest : Manifest} {g : Grid}
    (h : Manifest.ofFile services.readManifest content = .ok manifest) (hgrid : manifest.grid = .ok g) :
    i.answer services content =
      i.runMachine services (.new g (.ofText (i.input.getD manifest.input)))
        [.loaded manifest.metadata.name i.manifest] := by
  unfold answer Manifest.machine
  rw [h]
  dsimp only
  rw [hgrid]
  rfl

/-- What is printed of a run, and its exit code. `d` is the drive of the machine. -/
structure Invocation.Prints (i : Invocation) (services : Services) (d : Drive) (stdout : String)
    (exitCode : Nat) : Prop where
  /-- Without the flag it is the output on a line, also of a program that did not stop by itself. -/
  output : i.dump = false → stdout = d.machine.state.output.text ++ "\n"
  /-- With the flag there follows the snapshot of the machine in JSON, on lines of its own. -/
  dump : i.dump = true → ∃ json, services.writeJson (encode d.machine.snapshot) = .ok json ∧
    stdout = d.machine.state.output.text ++ "\n" ++ (json ++ "\n") ∧
    Value.ofText? json = some (encode d.machine.snapshot) ∧
    decode (encode d.machine.snapshot) = some d.machine.snapshot
  /-- The exit code is 0 exactly if the program stopped by itself, -/
  exit_zero : exitCode = 0 ↔ ∃ report, d.result = .ok report
  /-- and else 1. -/
  exit_one : exitCode = 1 ↔ ∃ error, d.result = .error error

/-- A run with a limit comes to an answer. -/
theorem Invocation.exists_runMachine (laws : services.Laws) (hsteps : i.steps ≠ 0) (m : Machine)
    (loaded : List Notice) :
    ∃ d a, m.drive i.steps.toNat = some d ∧ i.runMachine services m loaded = some a ∧
      i.Prints services d a.stdout a.exitCode := by
  have hlimit : i.steps.toNat ≠ 0 := fun h => hsteps (UInt64.toNat_inj.1 h)
  obtain ⟨d, hd⟩ := m.exists_drive i.steps.toNat hlimit
  have hfits := Machine.fits_snapshot_drive hlimit i.steps.toNat_lt hd
  obtain ⟨json, hjson, hread⟩ := laws.writes _ (Json.plain_snapshot hfits)
  have hdecode := Json.restores_snapshot_of_fits hfits _ (.refl _)
  have hexit : ∀ exitCode, exitCode = (if d.result.isOk then 0 else 1) →
      (exitCode = 0 ↔ ∃ report, d.result = .ok report) ∧
        (exitCode = 1 ↔ ∃ error, d.result = .error error) := by
    rintro _ rfl
    cases d.result <;> simp [Except.isOk, Except.toBool]
  unfold runMachine dumped
  simp only [hd, Option.bind_eq_bind, Option.bind_some, hjson]
  cases hdump : i.dump with
  | false =>
    obtain ⟨hzero, hone⟩ := hexit _ rfl
    exact ⟨d, _, rfl, rfl, fun _ => String.append_empty, fun h => absurd (hdump.symm.trans h) (by simp),
      hzero, hone⟩
  | true =>
    obtain ⟨hzero, hone⟩ := hexit _ rfl
    exact ⟨d, _, rfl, rfl, fun h => absurd (hdump.symm.trans h) (by simp),
      fun _ => ⟨json, hjson, rfl, hread, hdecode⟩, hzero, hone⟩

/-- An invocation with a limit comes to an answer. -/
theorem Invocation.exists_answer (laws : services.Laws) (i : Invocation) (hsteps : i.steps ≠ 0)
    (content : Except FileError ByteArray) :
    ∃ a, i.answer services content = some a := by
  cases hfile : Manifest.ofFile services.readManifest content with
  | error error =>
    obtain ⟨a, ha, -⟩ := answer_of_ofFile_error (i := i) hfile
    exact ⟨a, ha⟩
  | ok manifest =>
    cases hgrid : manifest.grid with
    | error error =>
      obtain ⟨a, ha, -⟩ := answer_of_grid_error (i := i) hfile hgrid
      exact ⟨a, ha⟩
    | ok g =>
      obtain ⟨d, a, -, ha, -⟩ := exists_runMachine laws hsteps _ _
      exact ⟨a, (answer_of_grid hfile hgrid).trans ha⟩

/-! ## The log -/

/-- Without a filter in the environment, the flag for the log only adds lines. -/
theorem Answer.log_sublist (laws : services.Laws) (a : Answer) :
    (a.outcome (services.filter (standardFilter false))).log.Sublist
      (a.outcome (services.filter (standardFilter true))).log := by
  apply List.Sublist.map
  apply List.monotone_filter_right
  intro e hquiet
  rw [standardFilter_eq, laws.shows] at hquiet ⊢
  exact Log.shows_standardDirectives_true hquiet

/-- The flags for the log do not interfere with the result. Take an invocation with a limit on the steps, and
any content of the file. There are one text and one exit code that are its result, whatever it is told about
tracing and whatever filter the environment holds. If there is no manifest or no grid, nothing is printed and
the exit code is 1. Otherwise the output of the machine at the end is printed on a line, also of a program that
did not stop by itself, and then the snapshot of the machine in JSON if it is asked for; and the exit code is 0
if the program stopped by itself, and else 1. Without a filter in the environment, the lines that are shown
without the flag are among those shown with it, in their order. -/
theorem Invocation.outcome_flags (services : Services) (laws : services.Laws) (i : Invocation)
    (hsteps : i.steps ≠ 0) (content : Except FileError ByteArray) :
    ∃ stdout exitCode,
      (∀ trace environment, ∃ log,
        { i with trace := trace }.outcome services content environment = some ⟨log, stdout, exitCode⟩) ∧
      (∀ error, Manifest.ofFile services.readManifest content = .error error →
        stdout = "" ∧ exitCode = 1) ∧
      (∀ manifest error, Manifest.ofFile services.readManifest content = .ok manifest →
        manifest.grid = .error error → stdout = "" ∧ exitCode = 1) ∧
      (∀ manifest g, Manifest.ofFile services.readManifest content = .ok manifest → manifest.grid = .ok g →
        ∃ d, (Machine.new g (.ofText (i.input.getD manifest.input))).drive i.steps.toNat = some d ∧
          i.Prints services d stdout exitCode) ∧
      ∃ quiet full, { i with trace := false }.outcome services content none = some quiet ∧
        { i with trace := true }.outcome services content none = some full ∧
        quiet.log.Sublist full.log := by
  obtain ⟨a, ha⟩ := exists_answer laws i hsteps content
  have houtcome : ∀ trace environment, { i with trace := trace }.outcome services content environment =
      some (a.outcome ({ i with trace := trace }.filter services environment)) := by
    intro trace environment
    rw [outcome, answer_trace, ha, Option.map_some]
  refine ⟨a.stdout, a.exitCode, ?_, ?_, ?_, ?_, _, _, houtcome false none, houtcome true none,
    a.log_sublist laws⟩
  · intro trace environment
    exact ⟨_, houtcome trace environment⟩
  · intro error h
    obtain ⟨a', ha', hprinted⟩ := answer_of_ofFile_error (i := i) h
    cases ha.symm.trans ha'
    exact hprinted
  · intro manifest error h hgrid
    obtain ⟨a', ha', hprinted⟩ := answer_of_grid_error (i := i) h hgrid
    cases ha.symm.trans ha'
    exact hprinted
  · intro manifest g h hgrid
    obtain ⟨d, a', hd, ha', hprinted⟩ := exists_runMachine laws hsteps
      (.new g (.ofText (i.input.getD manifest.input))) [.loaded manifest.metadata.name i.manifest]
    cases (ha.symm.trans (answer_of_grid h hgrid)).trans ha'
    exact ⟨d, hd, hprinted⟩

/-- A file with the program that prints the code it has read. -/
def echoFile : String :=
  "metadata: \x7bname: echo\x7d\n" ++
  "legend: \x7bi: [9, 0, 1], o: [8, 0, 1], h: [0, 0, 0]\x7d\n" ++
  "rows: [i o h]\n" ++
  "input: q\n"

/-- The manifest in this file. -/
def echoManifest : Manifest :=
  ((((Manifest.new "echo").withSymbol "i" ⟨9, 0, 1⟩).withSymbol "o" ⟨8, 0, 1⟩).withSymbol "h"
    ⟨0, 0, 0⟩ |>.withRow "i o h").withInput "q"

/-- The code is printed whatever the environment says about the log. The program stops by itself with its
third step, so with a limit of three steps the exit code is 0, and the snapshot that is printed, if it is asked
for, is that of the halted machine. With a limit of two steps the exit code is 1. -/
theorem Invocation.outcome_flags_echo :
    let i : UInt64 → Bool → Invocation := fun limit dump => ⟨"echo.yaml", limit, none, true, dump⟩
    let content : Except FileError ByteArray := .ok echoFile.toUTF8
    (∃ log json, (i 3 true).outcome .builtin content (some "off") =
        some ⟨log, "q\n" ++ (json ++ "\n"), 0⟩ ∧
      ∃ s : Snapshot, (Value.ofText? json).bind decode = some s ∧
        s.status = .halted ∧ s.steps = 3 ∧ s.output = "q") ∧
    ∃ log, (i 2 false).outcome .builtin content none = some ⟨log, "q\n", 1⟩ := by
  intro i content
  have hfile : Manifest.ofFile Services.builtin.readManifest content = .ok echoManifest := by
    rw [Manifest.ofFile_toUTF8]
    decide +kernel
  have hgrid : echoManifest.grid = .ok Machine.echo := by decide +kernel
  let m := Machine.new Machine.echo (.ofText "q")
  constructor
  · obtain ⟨stdout, exitCode, hshown, -, -, hprinted, -⟩ :=
      outcome_flags .builtin Services.laws_builtin (i 3 true) (by decide) content
    obtain ⟨d, hd, hprints⟩ := hprinted echoManifest Machine.echo hfile hgrid
    have hdrive : m.drive 3 = some d := hd
    obtain ⟨d', hd', hmachine, hresult⟩ := Machine.drive_of_halted (m := m) (.inr (by decide : 2 < 3))
      (by decide +kernel) (by decide +kernel)
    cases hdrive.symm.trans hd'
    obtain ⟨log, hlog⟩ := hshown true (some "off")
    obtain ⟨json, -, rfl, hread, hdecode⟩ := hprints.dump rfl
    obtain rfl : exitCode = 0 := hprints.exit_zero.2 ⟨_, hresult⟩
    have houtput : d.machine.state.output.text = "q" := by
      rw [hmachine]
      decide +kernel
    have hstatus : d.machine.status = .halted ∧ d.machine.steps = 3 := by
      rw [hmachine]
      decide +kernel
    rw [houtput] at hlog
    exact ⟨log, json, hlog, d.machine.snapshot, by rw [hread, Option.bind_some, hdecode], hstatus.1,
      hstatus.2, houtput⟩
  · obtain ⟨stdout, exitCode, hshown, -, -, hprinted, -⟩ :=
      outcome_flags .builtin Services.laws_builtin (i 2 false) (by decide) content
    obtain ⟨d, hd, hprints⟩ := hprinted echoManifest Machine.echo hfile hgrid
    have hdrive : m.drive 2 = some d := hd
    obtain ⟨d', hd', hmachine, hresult⟩ := m.drive_of_running (by decide : 2 ≠ 0) (by decide +kernel)
    cases hdrive.symm.trans hd'
    obtain ⟨log, hlog⟩ := hshown true none
    obtain rfl : exitCode = 1 := hprints.exit_one.2 ⟨_, hresult⟩
    have houtput : d.machine.state.output.text = "q" := by
      rw [hmachine]
      decide +kernel
    rw [hprints.output rfl, houtput] at hlog
    exact ⟨log, hlog⟩

end CommandLine

end PixelMachine
