import LifecycleHooks.Tool.Account
import LifecycleHooks.Tool.Blocks
import LifecycleHooks.Tool.Characters
import LifecycleHooks.Tool.Columns
import LifecycleHooks.Tool.Comparing
import LifecycleHooks.Tool.Condition
import LifecycleHooks.Tool.Counting
import LifecycleHooks.Tool.Dates
import LifecycleHooks.Tool.Difference
import LifecycleHooks.Tool.Dumping
import LifecycleHooks.Tool.Editing
import LifecycleHooks.Tool.Encoding
import LifecycleHooks.Tool.Ends
import LifecycleHooks.Tool.Folding
import LifecycleHooks.Tool.Formula
import LifecycleHooks.Tool.Lines
import LifecycleHooks.Tool.Listing
import LifecycleHooks.Tool.Printing
import LifecycleHooks.Tool.Relocation
import LifecycleHooks.Tool.Splitting
import LifecycleHooks.Tool.Sums

/-!
The programs of the system by name, and the tree of files in which they are found.
-/

namespace LifecycleHooks.Tool

open Process

def constant (ending : Ending) (_ : Frame) : Work Ending := pure ending

def directory : List (String × (Frame → Work Ending)) :=
  [("true", constant ok), ("false", constant failed), ("cat", cat), ("tac", tac), ("rev", rev),
    ("head", head), ("tail", tail), ("wc", wc), ("nl", nl), ("tee", tee), ("tr", Characters.tr),
    ("touch", touch), ("mkdir", mkdir), ("rmdir", rmdir), ("rm", rm), ("unlink", unlink), ("mv", mv),
    ("cp", cp), ("install", install), ("ln", ln), ("link", link), ("readlink", readlink),
    ("realpath", realpath), ("mktemp", mktemp), ("mkfifo", mkfifo), ("truncate", truncate),
    ("chmod", chmod), ("ls", ls), ("stat", stat), ("du", du), ("test", Condition.test),
    ("[", Condition.test), ("echo", echo), ("printf", printf), ("pwd", pwd), ("printenv", printenv),
    ("basename", basename), ("dirname", dirname), ("sleep", sleep), ("seq", seq), ("yes", yes),
    ("sort", sort), ("uniq", uniq), ("cut", cut), ("paste", paste), ("kill", kill),
    ("expr", Formula.expr), ("grep", Search.grep), ("egrep", Search.grep), ("fgrep", Search.grep),
    ("sed", Editing.sed), ("sync", sync), ("date", Dates.date),
    ("md5sum", Sums.digestProgram Sums.md5), ("sha1sum", Sums.digestProgram Sums.sha1),
    ("sha224sum", Sums.digestProgram Sums.sha224), ("sha256sum", Sums.digestProgram Sums.sha256),
    ("sha384sum", Sums.digestProgram Sums.sha384), ("sha512sum", Sums.digestProgram Sums.sha512),
    ("sum", Sums.sum), ("cksum", Sums.cksum), ("base64", Encoding.base64),
    ("base32", Encoding.base32), ("od", Dumping.od), ("cmp", Comparing.cmp),
    ("comm", Comparing.comm), ("diff", Difference.diff), ("join", Comparing.join),
    ("fold", Folding.fold), ("expand", Folding.expand), ("unexpand", Folding.unexpand),
    ("split", Splitting.split), ("dd", Blocks.dd), ("id", Account.id), ("groups", Account.groupsOf),
    ("whoami", Account.whoami), ("logname", Account.logname), ("tty", Account.tty),
    ("uname", Account.uname), ("arch", Account.arch), ("which", Account.which),
    ("chown", Account.changeOwner false), ("chgrp", Account.changeOwner true)]

def find? (name : String) : Option (Frame → Work Ending) :=
  (directory.find? fun entry => entry.1 == name).map Prod.snd

def starters : List String :=
  ["sh", "dash", "bash", "awk", "env", "nohup", "setsid", "nice", "stdbuf", "flock", "timeout", "xargs",
    "find"]

def systemDirectories : List Location :=
  [["bin"], ["usr"], ["usr", "bin"], ["usr", "local"], ["usr", "local", "bin"], ["etc"], ["home"],
    ["root"], ["dev"], ["proc"], ["proc", "self"], ["proc", "self", "fd"], ["tmp"], ["var"],
    ["var", "tmp"]]

def systemDevices : List (String × Device) :=
  [("null", .sink), ("zero", .zeros), ("full", .full), ("tty", .terminal), ("urandom", .zeros),
    ("random", .zeros)]

def systemLinks : List (Location × String) :=
  [(["dev", "fd"], "/proc/self/fd"), (["dev", "stdin"], "/proc/self/fd/0"),
    (["dev", "stdout"], "/proc/self/fd/1"), (["dev", "stderr"], "/proc/self/fd/2")]

def systemTree : FileTree :=
  let now := World.beginning - 86400000000
  let put (tree : FileTree) (place : Location) (content : Content) (mode : Nat) : FileTree :=
    tree.put place ⟨content, mode, now⟩
  let tree := systemDirectories.foldl (fun tree place => put tree place .directory 493) FileTree.empty
  let tree := (directory.map Prod.fst ++ starters).foldl (fun tree name =>
    put (put tree ["bin", name] (.program name) 493) ["usr", "bin", name] (.program name) 493) tree
  let tree := systemDevices.foldl (fun tree (name, device) =>
    put tree ["dev", name] (.device device) 438) tree
  systemLinks.foldl (fun tree (place, target) => put tree place (.link target) 511) tree

end LifecycleHooks.Tool
