/-! # Programs by name and path

    Some utilities belong to the shell, some are programs in a directory for programs,
    and some are both. -/

namespace EnvRegistry.Shell.Program

/-- Utilities of the shell itself that end it when they fail. -/
def special : List String :=
  [":", ".", "break", "continue", "eval", "exec", "exit", "export", "local", "readonly", "return",
   "set", "shift", "times", "trap", "unset"]

/-- Utilities that the shell brings along. -/
def builtin : List String :=
  special ++
    ["[", "alias", "bg", "cd", "chdir", "command", "echo", "false", "fg", "getopts", "hash", "jobs",
     "kill", "printf", "pwd", "read", "test", "true", "type", "ulimit", "umask", "unalias", "wait"]

/-- Programs in the directory for programs. -/
def installed : List String :=
  ["[", "awk", "base64", "basename", "bash", "cat", "chmod", "cksum", "cmp", "comm", "cp", "cut",
   "dash", "date", "dd", "diff", "dirname", "echo", "egrep", "env", "expand", "expr", "factor",
   "false", "fgrep", "find", "fold", "grep", "head", "hostname", "id", "install", "join", "kill",
   "ln", "logname", "ls", "mawk", "md5sum", "mkdir", "mktemp", "mv", "nice", "nl", "nohup",
   "nproc", "od", "paste", "printenv", "printf", "pwd", "readlink", "realpath", "rev", "rm",
   "rmdir", "sed", "seq", "sh", "sha1sum", "sha256sum", "shuf", "sleep", "sort", "split", "stat",
   "sync", "tac", "tail", "tee", "test", "timeout", "touch", "tr", "true", "truncate", "tty",
   "uname", "uniq", "unlink", "wc", "which", "whoami", "xargs", "yes"]

/-- The directory of the programs. -/
def directory : String := "/usr/bin"

/-- The directories in which programs are found. -/
def directories : List String := [directory, "/bin"]

/-- The name of the program at a path. -/
def at? (path : String) : Option String :=
  directories.findSome? fun d =>
    let start := d ++ "/"
    if start.toList.isPrefixOf path.toList then
      let name := String.ofList (path.toList.drop start.length)
      if installed.contains name then some name else none
    else none

end EnvRegistry.Shell.Program
