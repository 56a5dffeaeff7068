import Assay.Utility.About
import Assay.Utility.Awk
import Assay.Utility.Digest
import Assay.Utility.Compare
import Assay.Utility.Counts
import Assay.Utility.Cut
import Assay.Utility.Difference
import Assay.Utility.Dump
import Assay.Utility.Ends
import Assay.Utility.Environment
import Assay.Utility.Expr
import Assay.Utility.Files
import Assay.Utility.Find
import Assay.Utility.Grep
import Assay.Utility.Lines
import Assay.Utility.Printf
import Assay.Utility.Rows
import Assay.Utility.Sed
import Assay.Utility.Sequence
import Assay.Utility.Sort
import Assay.Utility.Start
import Assay.Utility.Translate
import Assay.Utility.Xargs

/-!
# The utilities of a system

Every utility that a host offers stands here under its name. The interpreter of a
run is as a rule a shell, and its program file a script that calls utilities; what
such a run does is worked out with them. Nothing that is proved of a run depends on
them, since a run takes any process by its events.
-/

set_option autoImplicit false

namespace Assay.Utility

def utilities : List (String × Tool) := [
  ("true", fun _ _ => pure 0),
  ("false", fun _ _ => pure 1),
  ("[", bracketTest),
  ("b2sum", b2sum),
  ("base64", base64),
  ("basename", basename),
  ("cat", cat),
  ("chmod", chmod),
  ("cksum", cksum),
  ("cmp", cmp),
  ("comm", comm),
  ("cp", cp),
  ("cut", cut),
  ("date", date),
  ("diff", diff),
  ("dir", dir),
  ("dirname", dirname),
  ("echo", echo),
  ("egrep", grepWith (some "egrep")),
  ("env", env),
  ("expr", expr),
  ("factor", factor),
  ("fgrep", grepWith (some "fgrep")),
  ("find", find),
  ("fold", fold),
  ("grep", grepWith none),
  ("head", head),
  ("link", link),
  ("ln", ln),
  ("ls", ls),
  ("md5sum", md5sum),
  ("mawk", awk),
  ("mkdir", mkdir),
  ("mkfifo", mkfifo),
  ("mktemp", mktemp),
  ("mv", mv),
  ("nice", nice),
  ("nl", nl),
  ("nohup", nohup),
  ("od", od),
  ("paste", paste),
  ("printenv", printenv),
  ("printf", printf),
  ("pwd", pwd),
  ("readlink", readlink),
  ("realpath", realpath),
  ("rev", rev),
  ("rm", rm),
  ("rmdir", rmdir),
  ("sed", sed),
  ("seq", seq),
  ("setsid", setsid),
  ("sha1sum", sha1sum),
  ("sha224sum", sha224sum),
  ("sha256sum", sha256sum),
  ("sha384sum", sha384sum),
  ("sha512sum", sha512sum),
  ("sleep", sleep),
  ("sort", sort),
  ("stat", stat),
  ("stdbuf", stdbuf),
  ("sum", sum),
  ("tac", tac),
  ("tail", tail),
  ("tee", tee),
  ("test", test),
  ("timeout", timeout),
  ("touch", touch),
  ("tr", tr),
  ("truncate", truncate),
  ("tty", tty),
  ("uname", uname),
  ("uniq", uniq),
  ("unlink", unlink),
  ("vdir", vdir),
  ("wc", wc),
  ("which", which),
  ("xargs", xargs),
  ("yes", yes)]

def utility? (name : String) : Option Tool :=
  (utilities.find? fun u => u.1 == name).map fun u => About.answering name u.2

end Assay.Utility
