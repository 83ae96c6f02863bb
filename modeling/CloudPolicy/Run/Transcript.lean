import CloudPolicy.Json.Printer
import CloudPolicy.Run.Basic

/-! What is shown of runs, line by line. -/

namespace CloudPolicy

/-- Work that shows lines on the way. The lines before a failure stay. -/
abbrev Shown := ExceptT Error (StateM (List String))

namespace Shown

def lines (new : List String) : Shown Unit := modify (· ++ new)

def line (text : String) : Shown Unit := lines [text]

/-- The result of work, and the lines that it showed. -/
def collect {α : Type} (work : Shown α) : Except Error α × List String := work.run.run []

/-- A failure that ends the work, if there is one. -/
def failWith : Option Error → Shown Unit
  | some e => throw e
  | none => return ()

end Shown

/-- Text filled up with spaces to a width. -/
def padded (width : Nat) (text : String) : String :=
  text ++ String.ofList (List.replicate (width - text.length) ' ')

namespace Report

/-- The report in a summary: what succeeded, how much failed, and why. -/
def summary (report : Report) : List String :=
  ("    " ++ padded 26 report.action ++ " ok: [" ++ Text.join ", " report.succeeded ++ "]  failed: "
      ++ toString report.failed.length)
    :: report.failed.map fun failed => "      " ++ failed.id ++ " -> " ++ failed.reason

/-- The report on one line, its texts in quotes. -/
def line (report : Report) : String :=
  "  " ++ report.action ++ " succeeded=" ++ Text.quotedList report.succeeded ++ " failed=["
    ++ Text.join ", " (report.failed.map fun failed =>
      "(" ++ Text.quoted failed.id ++ ", " ++ Text.quoted failed.reason ++ ")") ++ "]"

end Report

namespace RunOutcome

/-- The outcome in a summary: the policy, what it matched, and its reports. -/
def summary (outcome : RunOutcome) : List String :=
  ("  Policy:   " ++ outcome.policy) ::
    if !outcome.triggered then ["    not triggered by this event"]
    else
      ("    matched:  " ++ toString outcome.matched.length ++ " ["
          ++ Text.join ", " (outcome.matched.map Resource.id) ++ "]")
        :: outcome.reports.flatMap Report.summary

/-- The outcome in full: every match with its annotations, and every report. -/
def listing (type : ResourceType) (outcome : RunOutcome) : List String :=
  ("Policy " ++ outcome.policy ++ " (" ++ type.name ++ ")") ::
    if !outcome.triggered then ["  not triggered"]
    else
      (outcome.matched.map fun r =>
          "  matched " ++ r.id ++ " " ++ (Json.object r.annotations).text)
        ++ outcome.reports.map Report.line

end RunOutcome

end CloudPolicy
