import Assay.Host.Change
import Assay.Host.Spawn
import Assay.Json.Decode
import Assay.Json.Tree
import Assay.Utility.Table

/-!
# Snapshots of hosts

A host is described by what it has beside the things that stand on every host.
-/

set_option autoImplicit false

namespace Assay

/-!
## What stands on every host

Standard folders, the programs of the system and its devices are there on every
host. The programs stand in one folder, to which others lead.
-/

def standardTime : Int := 1735689600000000000

def standardFolders : List String :=
  ["boot", "dev", "dev/pts", "dev/shm", "etc", "etc/alternatives", "home", "media", "mnt", "opt",
    "proc", "proc/self", "proc/self/fd",
    "root", "run", "run/lock", "srv", "sys", "tmp", "usr", "usr/bin", "usr/games", "usr/include",
    "usr/lib", "usr/lib64", "usr/local", "usr/local/bin", "usr/local/etc", "usr/local/games",
    "usr/local/include", "usr/local/lib", "usr/local/sbin", "usr/local/share", "usr/local/src",
    "usr/sbin", "usr/share", "usr/src", "var", "var/cache", "var/lib", "var/log", "var/mail",
    "var/opt", "var/spool", "var/tmp"]

def standardDevices : List (String × Device) := [
  ("dev/null", .null),
  ("dev/full", .full),
  ("dev/zero", .zeros),
  ("dev/random", .zeros),
  ("dev/urandom", .zeros),
  ("dev/tty", .terminal),
  ("proc/self/fd/0", .descriptor 0),
  ("proc/self/fd/1", .descriptor 1),
  ("proc/self/fd/2", .descriptor 2),
  ("proc/self/fd/3", .descriptor 3),
  ("proc/self/fd/4", .descriptor 4),
  ("proc/self/fd/5", .descriptor 5),
  ("proc/self/fd/6", .descriptor 6),
  ("proc/self/fd/7", .descriptor 7),
  ("proc/self/fd/8", .descriptor 8),
  ("proc/self/fd/9", .descriptor 9)]

def shellNames : List String := ["dash", "bash", "rbash"]

/-- Programs that can be found, but whose work needs more than a host has here: they
do nothing. -/
def idleNames : List String :=
  ["arch", "base32", "chgrp", "chown", "clear", "csplit", "dd", "df",
    "dmesg", "du", "expand", "flock", "fmt", "getconf", "getent", "getopt", "groups",
    "gunzip", "gzip", "hostname", "iconv", "id", "install", "ionice", "join", "kill", "link",
    "login", "logname", "mknod", "more", "mount", "nproc", "numfmt",
    "passwd", "pathchk", "perl", "pr", "ps", "ptx",
    "shred", "shuf", "split", "stty", "su", "sync",
    "tar", "tput", "tsort", "umount", "unexpand", "users", "who",
    "whoami", "zcat", "zgrep"]

def standardPrograms : List (String × Program) :=
  shellNames.map (fun n => (n, .shell)) ++
    (Utility.utilities.map Prod.fst ++ idleNames).map fun n => (n, .utility n)

def standardLinks : List (String × String) := [
  ("bin", "usr/bin"),
  ("sbin", "usr/sbin"),
  ("lib", "usr/lib"),
  ("lib64", "usr/lib64"),
  ("var/run", "/run"),
  ("var/lock", "/run/lock"),
  ("usr/bin/sh", "dash"),
  ("usr/bin/awk", "/etc/alternatives/awk"),
  ("etc/alternatives/awk", "/usr/bin/mawk"),
  ("dev/fd", "/proc/self/fd"),
  ("dev/stdin", "/proc/self/fd/0"),
  ("dev/stdout", "/proc/self/fd/1"),
  ("dev/stderr", "/proc/self/fd/2")]

def sharedFolders : List String := ["dev/shm", "run/lock", "tmp", "var/tmp"]

def standardNodes : List (String × Inode) :=
  standardFolders.map (fun p =>
    (p, ⟨.folder, if sharedFolders.contains p then 0o1777 else 0o755, standardTime⟩)) ++
    standardPrograms.map (fun p => ("usr/bin/" ++ p.1, ⟨.program p.2, 0o755, standardTime⟩)) ++
    standardDevices.map (fun d => (d.1, ⟨.device d.2, 0o666, standardTime⟩)) ++
    standardLinks.map fun l => (l.1, ⟨.link l.2, 0o777, standardTime⟩)

def FileTree.standard : FileTree :=
  standardNodes.foldl (fun t n => t.put (Path.names n.1) n.2) .empty

/-!
## Descriptions of hosts

A snapshot is a JSON text that describes a host: its files with their texts, the
current folder, the environment and the time. The programs of the system need
not be listed, as they stand on every host.
-/

def Snapshot.making : Making := ⟨standardTime, Host.usualMask⟩

def FileTree.putFile (t : FileTree) (p : Place) (content : Bytes) : FileTree :=
  (t.ensureFolders Snapshot.making p.dropLast).put p (Snapshot.making.file content)

structure Snapshot where
  host : Host
  time : String

namespace Snapshot

open Json (Node Members Failure)

def empty : Snapshot := ⟨⟨.standard, [], ⟨[]⟩, standardTime + 1000000000⟩, ""⟩

def members {σ : Type} (step : σ → String → Node → Except Failure σ) (s : σ) :
    Node → Except Failure σ
  | .object ms => ms.fold step s
  | node => node.unwanted "a map"

def takeFile (t : FileTree) (path : String) (node : Node) : Except Failure FileTree := do
  let text ← node.toText "a string"
  return t.putFile (Path.names path) (Text.encode text)

def takeVariable (env : Environment) (name : String) (node : Node) :
    Except Failure Environment := do
  return env.set name (← node.toText "a string")

def takeMember (s : Snapshot) (name : String) (node : Node) : Except Failure Snapshot := do
  if name = "files" then
    return { s with host.files := ← members takeFile s.host.files node }
  else if name = "environment" then
    return { s with host.environment := ← members takeVariable s.host.environment node }
  else if name = "folder" then
    let p := Path.names (← node.toText "a string")
    return { s with host.folder := p, host.files := s.host.files.ensureFolders making p }
  else if name = "time" then
    return { s with time := ← node.toText "a string" }
  else
    node.skip
    return s

def ofText (text : String) : Except Failure Snapshot :=
  Json.decodeText (members takeMember empty) text

end Snapshot

def Host.changes (before after : Host) : Json :=
  .object (after.files.names.filterMap fun e =>
    match after.files.at? e.1 with
    | some (.file content) =>
      if before.files.at? e.1 = some (.file content) then none
      else some (Place.toPath e.1, .string (String.ofList (Text.decodeLossy content)))
    | _ => none)

end Assay
