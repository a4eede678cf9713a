import EnvRegistry.Shell.Edit.Editor
import EnvRegistry.Shell.Utility.Bytes
import EnvRegistry.Shell.Utility.Calculation
import EnvRegistry.Shell.Utility.CharSet
import EnvRegistry.Shell.Utility.Digest
import EnvRegistry.Shell.Utility.Files
import EnvRegistry.Shell.Utility.Lines
import EnvRegistry.Shell.Utility.Pieces
import EnvRegistry.Shell.Utility.Process
import EnvRegistry.Shell.Utility.Search

/-! # Utilities by name -/

namespace EnvRegistry.Shell.Utility

open ShellM

/-- Nothing is done. -/
def idle : Utility := fun _ => return 0

/-- The utility of the shell itself that a name stands for, unless it runs other commands. -/
def builtin? (name : String) : Option Utility :=
  match name with
  | ":" | "true" | "jobs" => some idle
  | "fg" | "bg" => some fun _ => refuse "No current job"
  | "false" => some fun _ => return 1
  | "[" => some (condition true)
  | "test" => some (condition false)
  | "alias" => some Builtin.setAliases
  | "cd" | "chdir" => some Builtin.cd
  | "echo" => some echo
  | "export" => some Builtin.exported
  | "getopts" => some Builtin.getopts
  | "hash" => some Builtin.hash
  | "kill" => some Builtin.kill
  | "local" => some Builtin.localTo
  | "printf" => some printf
  | "pwd" => some Builtin.pwd
  | "read" => some Builtin.readLine
  | "readonly" => some Builtin.readOnly
  | "set" => some Builtin.setAll
  | "shift" => some Builtin.shift
  | "times" => some fun _ => do
    say "0m0.000000s 0m0.000000s\n0m0.000000s 0m0.000000s\n"
    return 0
  | "trap" => some Builtin.trap
  | "type" => some Builtin.type
  | "ulimit" => some fun args => do
    if args.all (·.startsWith "-") then say "unlimited\n"
    return 0
  | "umask" => some Builtin.umask
  | "unalias" => some Builtin.dropAliases
  | "unset" => some Builtin.unsetAll
  | _ => none

/-- The program that a name stands for, unless it runs other commands. -/
def program? (name : String) : Option Utility :=
  match name with
  | "true" | "sync" => some idle
  | "false" => some fun _ => return 1
  | "[" => some (condition true)
  | "test" => some (condition false)
  | "base64" => some base64
  | "basename" => some basename
  | "cat" => some cat
  | "chmod" => some chmod
  | "cksum" => some cksum
  | "cmp" => some cmp
  | "comm" => some comm
  | "cp" => some cp
  | "cut" => some cut
  | "date" => some date
  | "dd" => some dd
  | "diff" => some diff
  | "dirname" => some dirname
  | "echo" => some echoProgram
  | "egrep" => some egrep
  | "expand" => some expandTabs
  | "expr" => some expr
  | "factor" => some factor
  | "fgrep" => some fgrep
  | "fold" => some fold
  | "grep" => some grep
  | "head" => some head
  | "hostname" => some (fixedLine "localhost")
  | "id" => some id
  | "install" => some install
  | "join" => some join
  | "kill" => some Builtin.kill
  | "ln" => some ln
  | "ls" => some ls
  | "md5sum" => some (digests "md5sum" Digest.four)
  | "mkdir" => some mkdir
  | "mktemp" => some mktemp
  | "mv" => some mv
  | "nl" => some nl
  | "nproc" => some (fixedLine "1")
  | "od" => some od
  | "paste" => some paste
  | "printenv" => some printenv
  | "printf" => some printfProgram
  | "pwd" => some pwdProgram
  | "readlink" => some readlink
  | "realpath" => some realpath
  | "rev" => some rev
  | "rm" => some rm
  | "rmdir" => some rmdir
  | "sed" => some Edit.sed
  | "seq" => some seq
  | "sha1sum" => some (digests "sha1sum" Digest.five)
  | "sha256sum" => some (digests "sha256sum" Digest.eight)
  | "shuf" => some shuf
  | "sort" => some sort
  | "split" => some split
  | "stat" => some stat
  | "tac" => some tac
  | "tail" => some tail
  | "tee" => some tee
  | "touch" => some touch
  | "tr" => some tr
  | "truncate" => some truncate
  | "tty" => some fun _ => do
    say "not a tty\n"
    return 1
  | "uname" => some uname
  | "uniq" => some uniq
  | "unlink" => some unlink
  | "wc" => some wc
  | "which" => some Builtin.which
  | "whoami" | "logname" => some (fixedLine "root")
  | "yes" => some yes
  | _ => none

end EnvRegistry.Shell.Utility
