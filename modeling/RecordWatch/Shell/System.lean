import RecordWatch.FileTree

/-! What a machine comes with: the usual directories, devices and programs. They are found where the
file tree itself has nothing. -/

namespace RecordWatch

namespace Shell

namespace System

/-- The directories that every machine has. -/
def directories : List (List String) :=
  [["bin"], ["boot"], ["dev"], ["dev", "fd"], ["etc"], ["home"], ["lib"], ["media"], ["mnt"],
    ["opt"], ["proc"], ["root"], ["run"], ["sbin"], ["srv"], ["sys"], ["tmp"], ["usr"],
    ["usr", "bin"], ["usr", "include"], ["usr", "lib"], ["usr", "local"], ["usr", "local", "bin"],
    ["usr", "local", "lib"], ["usr", "local", "sbin"], ["usr", "sbin"], ["usr", "share"],
    ["usr", "src"], ["var"], ["var", "cache"], ["var", "lib"], ["var", "log"], ["var", "tmp"]]

/-- Some files that every machine has. -/
def standardFiles : List (List String) :=
  [["etc", "group"], ["etc", "hostname"], ["etc", "hosts"], ["etc", "passwd"],
    ["etc", "resolv.conf"], ["etc", "shells"]]

/-- The devices. -/
def devices : List (List String) :=
  [["dev", "null"], ["dev", "zero"], ["dev", "full"], ["dev", "random"], ["dev", "urandom"],
    ["dev", "tty"], ["dev", "stdin"], ["dev", "stdout"], ["dev", "stderr"]]

/-- The names of the shell. -/
def shells : List String := ["sh", "dash"]

/-- The names of the installed programs. -/
def programs : List String :=
  shells ++
  ["[", "basename", "cat", "chmod", "cp", "cut", "dirname", "echo", "egrep", "env", "expr",
    "false", "fgrep", "fold", "grep", "head", "ls", "mkdir", "mktemp", "mv", "nl", "nohup",
    "paste", "printenv", "printf", "pwd", "rev", "rm", "rmdir", "sed", "seq", "sleep", "sort",
    "tac", "tail", "tee", "test", "timeout", "touch", "tr", "true", "uname", "uniq", "wc", "which",
    "xargs", "yes"]

/-- The directories that programs are in. -/
def programDirectories : List (List String) := [["usr", "bin"], ["bin"]]

/-- The directories in which programs are looked for if the environment does not say. -/
def searchPath : String := "/usr/local/sbin:/usr/local/bin:/usr/sbin:/usr/bin:/sbin:/bin"

/-- The directories in which a program that is no shell looks if the environment does not say. -/
def barePath : String := "/bin:/usr/bin"

/-- The program at a place. -/
def program? (place : List String) : Option String :=
  match place.getLast? with
  | some name =>
    if programDirectories.contains place.dropLast && programs.contains name then some name
    else none
  | none => none

/-- What a machine has at a place besides its own files. -/
def node? (place : List String) : Option Node :=
  if directories.contains place then some (.directory 0)
  else if standardFiles.contains place then some (.file "\n".toUTF8 false 0)
  else if (program? place).isSome then some (.file "\x7fELF".toUTF8 true 0)
  else if devices.contains place then some (.file .empty false 0)
  else none

end System

end Shell

end RecordWatch
