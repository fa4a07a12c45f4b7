import BatchRunner.Machine.Tool.Checksums
import BatchRunner.Machine.Tool.Compare
import BatchRunner.Machine.Tool.Edit.Run
import BatchRunner.Machine.Tool.Find
import BatchRunner.Machine.Tool.Launcher
import BatchRunner.Machine.Tool.Lines
import BatchRunner.Machine.Tool.Listing
import BatchRunner.Machine.Tool.Records
import BatchRunner.Machine.Tool.Rules.Program
import BatchRunner.Machine.Tool.Search
import BatchRunner.Machine.Tool.System
import BatchRunner.Machine.Tool.Translate

/-!
# The programs of a machine

Which programs a machine brings along, and what each of them does.
-/

namespace BatchRunner.Machine.Tool

/-- The shells: programs that run scripts. -/
def shells : List String := ["sh", "dash", "bash", "rbash"]

/-- What a program does. One that this library knows nothing of but its name succeeds at once. -/
def plan (tool : String) (call : Call) : Plan :=
  match tool with
  | "true" => .done 0
  | "false" => .done 1
  | "echo" => echo call
  | "printf" => printf call
  | "test" => test false call
  | "[" => test true call
  | "sleep" => sleep call
  | "pwd" => pwd call
  | "basename" => basename call
  | "dirname" => dirname call
  | "seq" => seq call
  | "cat" => cat call
  | "head" => head call
  | "tee" => tee call
  | "yes" => yes call
  | "env" => env call
  | "printenv" => printenv call
  | "timeout" => timeout call
  | "nohup" => wrapper "" call
  | "setsid" => setsid call
  | "stdbuf" => wrapper "ioe" call
  | "nice" => nice call
  | "xargs" => xargs call
  | "tail" => tail call
  | "tac" => tac call
  | "wc" => wc call
  | "sort" => sort call
  | "uniq" => uniq call
  | "cut" => cut call
  | "paste" => paste call
  | "nl" => nl call
  | "fold" => fold call
  | "comm" => comm call
  | "touch" => touch call
  | "mkdir" => mkdir call
  | "rmdir" => rmdir call
  | "rm" => rm call
  | "unlink" => unlink call
  | "cp" => cp call
  | "mv" => mv call
  | "ln" => ln call
  | "chmod" => chmod call
  | "readlink" => readlink call
  | "realpath" => realpath call
  | "stat" => stat call
  | "truncate" => truncate call
  | "mktemp" => mktemp call
  | "ls" => ls call
  | "dir" => ls { call with args := "-C" :: call.args }
  | "find" => Find.find call
  | "which" => which call
  | "expr" => expr call
  | "id" => userIds call
  | "whoami" => whoami call
  | "logname" => call.fail "no login name" 1
  | "uname" => uname call
  | "arch" => fixedLine "x86_64" 0 call
  | "nproc" => fixedLine "1" 0 call
  | "tty" => fixedLine "not a tty" 1 call
  | "date" => date call
  | "tr" => tr call
  | "od" => od call
  | "base64" => base64 call
  | "dd" => dd call
  | "grep" => grep call
  | "egrep" => grepAs .extended call
  | "fgrep" => grepAs .fixed call
  | "sed" => Edit.sed call
  | "awk" => Rules.awk call
  | "mawk" => Rules.awk call
  | "nawk" => Rules.awk call
  | "cksum" => cksum call
  | "sum" => sum call
  | "join" => join call
  | "tsort" => tsort call
  | "split" => split call
  | "expand" => expand call
  | "factor" => factor call
  | "link" => link call
  | "groups" => groups call
  | "stty" => call.fail "'standard input': Inappropriate ioctl for device" 1
  | "cmp" => cmp call
  | "diff" => diff call
  | name => match digestKinds.lookup name with
    | some kind => digestTool kind call
    | none => .done 0

end BatchRunner.Machine.Tool
