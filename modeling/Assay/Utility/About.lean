import Assay.Utility.Basic

/-!
# What utilities say of themselves

Asked for its version or for help alone, a utility answers with a line that
names the collection it belongs to, or the form of its arguments.
-/

set_option autoImplicit false

namespace Assay.Utility.About

open Shell (Sh)

def collections : List (String × String × List String) := [
  ("GNU diffutils", "3.10", ["cmp", "diff"]),
  ("GNU findutils", "4.9.0", ["find", "xargs"]),
  ("GNU grep", "3.11", ["grep", "egrep", "fgrep"]),
  ("GNU sed", "4.9", ["sed"])]

def versionLine (name own : String) : String :=
  match collections.find? fun c => c.2.2.contains name with
  | some (collection, version, _) =>
    let shown := if name = "sed" then own else if name.endsWith "grep" then "grep" else name
    shown ++ " (" ++ collection ++ ") " ++ version
  | none => name ++ " (GNU coreutils) 9.4"

def forms : List (String × String) := [
  ("base64", "[OPTION]... [FILE]"),
  ("basename", "NAME [SUFFIX]"),
  ("cat", "[OPTION]... [FILE]..."),
  ("chmod", "[OPTION]... MODE[,MODE]... FILE..."),
  ("cmp", "[OPTION]... FILE1 [FILE2 [SKIP1 [SKIP2]]]"),
  ("comm", "[OPTION]... FILE1 FILE2"),
  ("cp", "[OPTION]... [-T] SOURCE DEST"),
  ("cut", "OPTION... [FILE]..."),
  ("date", "[OPTION]... [+FORMAT]"),
  ("diff", "[OPTION]... FILES"),
  ("dirname", "[OPTION] NAME..."),
  ("echo", "[SHORT-OPTION]... [STRING]..."),
  ("egrep", "[OPTION]... PATTERNS [FILE]..."),
  ("env", "[OPTION]... [-] [NAME=VALUE]... [COMMAND [ARG]...]"),
  ("expr", "EXPRESSION"),
  ("factor", "[OPTION] [NUMBER]..."),
  ("false", "[ignored command line arguments]"),
  ("fgrep", "[OPTION]... PATTERNS [FILE]..."),
  ("find", "[-H] [-L] [-P] [-Olevel] [-D debugopts] [path...] [expression]"),
  ("fold", "[OPTION]... [FILE]..."),
  ("grep", "[OPTION]... PATTERNS [FILE]..."),
  ("head", "[OPTION]... [FILE]..."),
  ("link", "FILE1 FILE2"),
  ("ln", "[OPTION]... [-T] TARGET LINK_NAME"),
  ("ls", "[OPTION]... [FILE]..."),
  ("mkdir", "[OPTION]... DIRECTORY..."),
  ("mkfifo", "[OPTION]... NAME..."),
  ("mktemp", "[OPTION]... [TEMPLATE]"),
  ("mv", "[OPTION]... [-T] SOURCE DEST"),
  ("nice", "[OPTION] [COMMAND [ARG]...]"),
  ("nl", "[OPTION]... [FILE]..."),
  ("nohup", "COMMAND [ARG]..."),
  ("od", "[OPTION]... [FILE]..."),
  ("paste", "[OPTION]... [FILE]..."),
  ("printenv", "[OPTION]... [VARIABLE]..."),
  ("printf", "FORMAT [ARGUMENT]..."),
  ("pwd", "[OPTION]..."),
  ("readlink", "[OPTION]... FILE..."),
  ("realpath", "[OPTION]... FILE..."),
  ("rm", "[OPTION]... [FILE]..."),
  ("rmdir", "[OPTION]... DIRECTORY..."),
  ("seq", "[OPTION]... LAST"),
  ("sleep", "NUMBER[SUFFIX]..."),
  ("sort", "[OPTION]... [FILE]..."),
  ("stat", "[OPTION]... FILE..."),
  ("stdbuf", "OPTION... COMMAND"),
  ("tac", "[OPTION]... [FILE]..."),
  ("tail", "[OPTION]... [FILE]..."),
  ("tee", "[OPTION]... [FILE]..."),
  ("timeout", "[OPTION] DURATION COMMAND [ARG]..."),
  ("touch", "[OPTION]... FILE..."),
  ("tr", "[OPTION]... STRING1 [STRING2]"),
  ("true", "[ignored command line arguments]"),
  ("truncate", "OPTION... FILE..."),
  ("tty", "[OPTION]..."),
  ("uname", "[OPTION]..."),
  ("uniq", "[OPTION]... [INPUT [OUTPUT]]"),
  ("unlink", "FILE"),
  ("wc", "[OPTION]... [FILE]..."),
  ("xargs", "[OPTION]... COMMAND [INITIAL-ARGS]..."),
  ("yes", "[STRING]...")]

def answer? (name own : String) (arguments : List String) : Option String :=
  match forms.find? fun f => f.1 == name, arguments with
  | some _, ["--version"] => some (versionLine name own)
  | some (_, form), ["--help"] =>
    some ("Usage: " ++ (if name.endsWith "grep" then "grep" else own) ++ " " ++ form)
  | _, _ => if name = "sed" && arguments == ["--version"] then some (versionLine name own) else none

def answering (name : String) (u : Tool) : Tool := fun runner arguments => do
  match answer? name (← ownName name) arguments with
  | some line => emit name (line ++ "\n")
  | none => u runner arguments

end Assay.Utility.About
