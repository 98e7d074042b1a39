import PixelMachine.Log.Rule

/-!
# Log filters

A filter is a list of rules. Of the rules about an entry, the most specific one decides whether it is
let through. What no rule is about is not let through.
-/

set_option autoImplicit false

namespace PixelMachine.Log

/-- The rules of a log. -/
abbrev Filter : Type := List Rule

namespace Filter

/-- The rules about entries from a part of the program. -/
def about (f : Filter) (t : Target) : Filter := f.filter (·.covers t)

/-- The rule that decides about an entry, if all rules are about the part it comes from. -/
def ruleFor? (f : Filter) (h : Heading) : Option Rule :=
  match f.filter (·.isMetBy h) with
  | [] => none
  | rule :: rest => some (rest.foldl Rule.moreSpecific rule)

/-- Whether an entry is let through, if all rules are about the part it comes from. -/
def admits (f : Filter) (h : Heading) : Bool :=
  ((f.ruleFor? h).bind (·.level)).any fun least => least.rank ≤ h.level.rank

/-- Whether an entry is let through. -/
def passes (f : Filter) (h : Heading) : Bool := (f.about h.target).admits h

end Filter

/-- A filter taken apart: for each part of the program the rules about it. -/
structure Sections where
  /-- The rules about the machine. -/
  machine : Filter
  /-- The rules about the handlers. -/
  handlers : Filter
  /-- The rules about the driver. -/
  driver : Filter
  /-- The rules about the command line. -/
  commandLine : Filter
  deriving DecidableEq

namespace Sections

/-- The rules about a part of the program. -/
def rules (s : Sections) : Target → Filter
  | .machine => s.machine
  | .handlers => s.handlers
  | .driver => s.driver
  | .commandLine => s.commandLine

/-- Whether an entry is let through. -/
def passes (s : Sections) (h : Heading) : Bool := (s.rules h.target).admits h

end Sections

namespace Filter

/-- A filter taken apart. -/
def sections (f : Filter) : Sections :=
  ⟨f.about .machine, f.about .handlers, f.about .driver, f.about .commandLine⟩

/-- A filter taken apart lets through what the filter lets through. -/
theorem passes_sections (f : Filter) (h : Heading) : f.sections.passes h = f.passes h := by
  obtain ⟨level, target, details⟩ := h
  cases target <;> rfl

/-- The filter that a text stands for: rules with commas between them. Nothing between two commas is no
rule, and without any rule nothing is let through. -/
def ofText? (text : String) : Option Filter :=
  let rules := (text.toList.splitOn ',').filter (!·.isEmpty)
  ((rules.map String.ofList).mapM Rule.ofText?).map (·.filterMap id)

end Filter

end PixelMachine.Log
