import Lintel.Config
import Lintel.Report
import Lintel.Text.Style

/-!
# Reports as text

The report of a run and the list of rules, as a person reads them.
-/

set_option autoImplicit false

namespace Lintel

open Text (Style styled styledPadded)

def Severity.style : Severity → Style
  | .error => { weight := some .bold, colour := some .red }
  | .warning => { colour := some .yellow }
  | .information => { colour := some .cyan }

def GateOutcome.style : GateOutcome → Style
  | .pass => { weight := some .bold, colour := some .green }
  | .fail => { weight := some .bold, colour := some .red }
  | .incomplete => { weight := some .bold, colour := some .yellow }

def headingStyle : Style := { weight := some .bold }

def faintStyle : Style := { weight := some .dimmed }

/-- One line of a report. -/
def Diagnostic.text (coloured : Bool) (diagnostic : Diagnostic) : String :=
  let level := styled coloured diagnostic.severity.style diagnostic.severity.name
  let rule := styled coloured faintStyle diagnostic.ruleId
  s!"{diagnostic.file}:{diagnostic.span.startLine}:{diagnostic.span.startColumn}: {level} [{rule}] "
    ++ diagnostic.message ++ "\n"

/-- The warnings of a report, if there are any. -/
def RunReport.warningText (coloured : Bool) (report : RunReport) : String :=
  if report.warnings.isEmpty then ""
  else "\n" ++ styled coloured headingStyle "Warnings" ++ "\n"
    ++ String.join (report.warnings.map fun warning => " * " ++ warning ++ "\n")

/-- The summary at the end of a report. -/
def RunReport.summaryText (coloured : Bool) (report : RunReport) : String :=
  let stats := report.stats
  let counts := report.gate.counts
  let abandoned := if stats.abandoned = 0 then "" else s!" * Abandoned: {stats.abandoned}\n"
  let outcome := styled coloured report.gate.outcome.style report.gate.outcome.name
  "\n" ++ styled coloured headingStyle "Summary" ++ "\n"
    ++ s!" * Units: {stats.analyzed} analyzed ({stats.cached} cached), {stats.excluded} excluded, "
    ++ s!"{stats.loadFailed} failed to load\n"
    ++ abandoned
    ++ s!" * Diagnostics: {counts.error} errors, {counts.warning} warnings, "
    ++ s!"{counts.information} information\n"
    ++ s!" * Gate: {outcome} (fail threshold {report.gate.failThreshold.name})\n"

/-- A report: one line for each diagnostic, then warnings and a summary. -/
def RunReport.text (coloured : Bool) (report : RunReport) : String :=
  String.join (report.diagnostics.map (Diagnostic.text coloured))
    ++ report.warningText coloured ++ report.summaryText coloured

/-- A rule with the state it has in a configuration, and its parameters on lines of their own. -/
def Config.ruleText (coloured : Bool) (config : Config) (rule : Rule) : String :=
  let settings := Table.find? rule.id config.rules
  let level := ((settings.map RuleSettings.severity).getD rule.severity).name
  let isOn := (settings.map RuleSettings.enabled).getD false
  let state :=
    if isOn then styledPadded coloured { colour := some .green } 3 "on"
    else styledPadded coloured faintStyle 3 "off"
  let parameters := ((settings.map RuleSettings.parameters).getD []).map fun (name, value) =>
    String.ofList (Text.padEnd 33 []) ++ name ++ " = " ++ value.compactText ++ "\n"
  styledPadded coloured headingStyle 28 rule.id ++ " " ++ state ++ " "
    ++ String.ofList (Text.padEnd 11 level.toList) ++ " " ++ rule.description ++ "\n"
    ++ String.join parameters

/-- The rules of a registry with the states they have in a configuration. -/
def Config.rulesText (coloured : Bool) (config : Config) (registry : Registry) : String :=
  String.join (registry.rules.map (config.ruleText coloured))

end Lintel
