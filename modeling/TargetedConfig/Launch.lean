import TargetedConfig.Display
import TargetedConfig.Session
import TargetedConfig.Settings

/-!
# Launching an engine

A launch announces the start, makes a session and its calls, and shows the records whose level
reaches the one in the settings. It ends with the first failure; what was written before is shown
all the same.
-/

namespace TargetedConfig

namespace Launch

/-- The capitals of an ASCII letter or of another one whose capitals are such letters. -/
def capitals (c : Char) : List Char :=
  if c = 'ı' then ['I'] else if c = 'ſ' then ['S'] else if c = 'ﬅ' ∨ c = 'ﬆ' then ['S', 'T']
  else [c.toUpper]

/-- The weight that a level name asks for, in any letter case. -/
def weight (name : String) : Except Failure Nat :=
  match String.ofList (name.toList.flatMap capitals) with
  | "NOTSET" => .ok 0
  | "DEBUG" => .ok 10
  | "INFO" => .ok 20
  | "WARN" => .ok 30
  | "WARNING" => .ok 30
  | "ERROR" => .ok 40
  | "FATAL" => .ok 50
  | "CRITICAL" => .ok 50
  | "BASIC_FORMAT" => .error (.reservedLevel .form)
  | "_STYLES" => .error (.reservedLevel .styles)
  | _ => .error (.unknownLevel name)

def logger : String := "remote_config.main"

def startNote (settings : Settings) : Entry :=
  ⟨.info, logger, "Remote Config engine starting", [("env", .string settings.environment)]⟩

end Launch

/-- The answers of a launch, or its first failure, and the records that are shown. -/
structure Launch where
  outcomes : Except Failure (List Outcome)
  shown : List Record

open Launch in
def Settings.launch (settings : Settings) (defaults : OrderedMap String)
    (cached : Option Submission) (calls : List Call) : Launch :=
  match weight settings.logLevel with
  | .error f => ⟨.error f, []⟩
  | .ok weight =>
    let shown (journal : Journal) : List Record := journal.records.filter (·.reaches weight)
    match Session.create defaults cached (({} : Journal).write (startNote settings)) with
    | (.error f, journal) => ⟨.error f, shown journal⟩
    | (.ok session, _) =>
      let (outcomes, last) := Call.runAll session calls
      ⟨outcomes, shown last.journal⟩

end TargetedConfig
