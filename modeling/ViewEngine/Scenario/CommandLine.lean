import ViewEngine.Scenario.Setup
import ViewEngine.Cli.Program

/-!
Scenarios on the command line: running it with arguments, standard input and files, and
answering what it printed, its exit code and the message of its last error line.
-/

namespace ViewEngine

namespace Scenario

/-- The text after `error: ` on the last error line printed, if any. -/
def errorLine (stderr : String) : Option String :=
  ((stderr.splitOn "\n").filter (·.startsWith "error: ")).getLast?.map fun l => (l.drop 7).toString

/-- Runs the command line with the scenario's arguments, standard input and files. -/
def commandLineAnswer (j : Json) : Json :=
  let args := ((j.get? "args").bind Json.arr?).getD [] |>.filterMap Json.str?
  let files := match j.get? "files" with
    | some (.obj members) => members.filterMap fun (k, v) => v.str?.map (k, ·)
    | _ => []
  let out := Cli.run args ⟨textFieldOr j "stdin" "", files⟩
  .obj [("stdout", .str out.stdout), ("code", natJson out.code),
    ("error_line", match errorLine out.stderr with
      | some line => .str line
      | none => .null)]

end Scenario

end ViewEngine
