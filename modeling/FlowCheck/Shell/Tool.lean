import FlowCheck.Shell.Tool.Expression
import FlowCheck.Shell.Tool.Launch
import FlowCheck.Shell.Tool.Order
import FlowCheck.Shell.Tool.Output
import FlowCheck.Shell.Tool.Paths
import FlowCheck.Shell.Tool.Reading
import FlowCheck.Shell.Tool.Search
import FlowCheck.Shell.Tool.Transfer
import FlowCheck.Shell.Tool.Translate

/-!
# Tools

The programs of the system, by their names.
-/

namespace FlowCheck.Shell

/-- The tools by their names. How a tool starts another program is told. -/
def tools (launch : List Bytes → Act Unit) : List (String × (List Bytes → Act Nat)) :=
  [("[", testProgram true), ("basename", basename), ("cat", cat), ("chmod", chmod), ("cmp", cmp),
    ("comm", comm), ("cp", cp), ("cut", cut), ("dirname", dirname), ("echo", echoProgram),
    ("egrep", grep true false), ("env", env launch), ("expand", expandTabs), ("expr", expr),
    ("false", fun _ => return 1), ("fgrep", grep false true), ("fold", fold),
    ("grep", grep false false), ("head", head), ("id", tellUser), ("ls", ls), ("mkdir", mkdir),
    ("mv", mv), ("nice", nice launch), ("nl", numberLines), ("nohup", nohup launch),
    ("paste", paste), ("printenv", printenv), ("printf", printfProgram), ("pwd", pwd), ("readlink", readlink),
    ("realpath", realpath), ("rev", rev), ("rm", rm), ("rmdir", rmdir), ("seq", seq),
    ("setsid", runPlainly launch "setsid" "cfw"), ("sleep", sleep), ("sort", sort),
    ("stdbuf", runPlainly launch "stdbuf" "i:o:e:"), ("tac", tac), ("tail", tail), ("tee", tee),
    ("test", testProgram false), ("timeout", timeout launch), ("touch", touch),
    ("tr", translateBytes), ("true", fun _ => return 0), ("tty", tellTerminal), ("uniq", uniq),
    ("wc", wc), ("which", which), ("whoami", tellUserName), ("xargs", xargs launch), ("yes", yes)]

/-- What a program of the system does. -/
def tool? (launch : List Bytes → Act Unit) (name : String) : Option (List Bytes → Act Nat) :=
  (tools launch).lookup name

/-- The programs of the system. -/
def programNames : List String :=
  "sh" :: (tools fun _ => pure ()).map Prod.fst

end FlowCheck.Shell
