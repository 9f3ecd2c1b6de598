import CellRunner.Machine.System
import CellRunner.Shell.Start
import CellRunner.Tool.Arguments
import CellRunner.Tool.Cat
import CellRunner.Tool.Charset
import CellRunner.Tool.Columns
import CellRunner.Tool.Compare
import CellRunner.Tool.Installing
import CellRunner.Tool.Count
import CellRunner.Tool.Digest
import CellRunner.Tool.Dump
import CellRunner.Tool.Editing.Run
import CellRunner.Tool.Encoding
import CellRunner.Tool.Ends
import CellRunner.Tool.Expression
import CellRunner.Tool.Facts
import CellRunner.Tool.Finding
import CellRunner.Tool.Launch
import CellRunner.Tool.Lines
import CellRunner.Tool.Listing
import CellRunner.Tool.Making
import CellRunner.Tool.Mode
import CellRunner.Tool.Order
import CellRunner.Tool.Ownership
import CellRunner.Tool.Paragraphs
import CellRunner.Tool.Paths
import CellRunner.Tool.Precedence
import CellRunner.Tool.Records.Run
import CellRunner.Tool.Search
import CellRunner.Tool.Sequence
import CellRunner.Tool.Shuffle
import CellRunner.Tool.Signalling
import CellRunner.Tool.Sorted
import CellRunner.Tool.Splitting
import CellRunner.Tool.Tree
import CellRunner.Tool.Units
import CellRunner.Tool.Words

/-!
# A machine with the usual programs
-/

set_option autoImplicit false

namespace CellRunner.Machine

open Tool in
/-- The programs and their names. -/
def tools : List (String × Tool) :=
  [("[", test true), ("arch", arch), ("awk", records), ("base32", encodeIn Encoding.thirtyTwo),
    ("base64", encodeIn Encoding.sixtyFour), ("basename", basename), ("basenc", encodeAs),
    ("cat", cat), ("chgrp", chgrp), ("chmod", chmod), ("chown", chown), ("cksum", cksum),
    ("cmp", cmp), ("comm", comm), ("cp", cp), ("csplit", csplit), ("cut", cut), ("date", date), ("dd", dd),
    ("diff", diff), ("dirname", dirname), ("du", du), ("echo", echo), ("egrep", search .extended),
    ("env", env), ("expand", expand), ("expr", expr), ("factor", factor), ("false", pure 1),
    ("fgrep", search .fixed), ("find", find), ("fmt", fmt), ("fold", fold), ("getopt", getopt),
    ("grep", search .basic), ("groups", groups), ("head", head), ("hostname", hostname),
    ("id", identity), ("install", install), ("join", join), ("kill", kill), ("link", link),
    ("ln", ln), ("logname", logname), ("ls", ls), ("mawk", records), ("md5sum", md5sum),
    ("mkdir", mkdir), ("mkfifo", mkfifo), ("mknod", mknod), ("mktemp", mktemp), ("mv", mv),
    ("nice", nice), ("nl", nl), ("nohup", nohup), ("nproc", nproc), ("numfmt", numfmt), ("od", od), ("paste", paste),
    ("printenv", printenv), ("printf", printf), ("pwd", pwd), ("readlink", readlink),
    ("realpath", realpath), ("rev", rev), ("rm", rm), ("rmdir", rmdir), ("sed", edit), ("seq", seq),
    ("setsid", leader), ("sha1sum", sha1sum), ("sha224sum", sha224sum), ("sha256sum", sha256sum),
    ("sha384sum", sha384sum), ("sha512sum", sha512sum), ("shuf", shuffle), ("sleep", sleep),
    ("sort", sort), ("split", split), ("stat", stat), ("stdbuf", buffered), ("sum", sum), ("sync", pure 0),
    ("tac", tac), ("tail", tail), ("tee", tee), ("test", test false), ("timeout", timeout),
    ("touch", touch), ("tr", tr), ("true", pure 0), ("truncate", truncate), ("tsort", precede),
    ("tty", tty), ("uname", uname), ("unexpand", unexpand), ("uniq", uniq), ("unlink", unlink),
    ("users", visitors), ("wc", wc), ("which", which), ("who", visitors), ("whoami", whoami),
    ("xargs", xargs), ("yes", yes)]

def shells : List (String × Shell.Dialect) := [("dash", .plain), ("bash", .extended)]

/-- What each program does. -/
def programs : Programs := fun name =>
  match shells.lookup name with
  | some d => some (Shell.start d)
  | none =>
    (tools.lookup name).map fun tool => fun args environment =>
      match args.map Shell.ofBytes with
      | name :: args => tool.task { name, args, environment }
      | [] => tool.task { name := [], args := [], environment }

/-- The world of a machine on which these programs run. -/
def world : World System := System.world programs

def directories : List (String × Nat) :=
  [("/dev", 0o755), ("/etc", 0o755), ("/home", 0o755), ("/proc", 0o755),
    ("/proc/self", 0o755), ("/proc/self/fd", 0o755), ("/root", 0o700),
    ("/tmp", 0o1777), ("/usr", 0o755), ("/usr/bin", 0o755), ("/usr/lib", 0o755),
    ("/usr/sbin", 0o755), ("/var", 0o755), ("/var/tmp", 0o1777)]

def devices : List (String × Device) :=
  [("null", .void), ("zero", .zeros), ("full", .full), ("random", .noise), ("urandom", .noise),
    ("tty", .terminal)]

def facts : List (String × Fact) :=
  [("status", .status), ("cmdline", .call), ("comm", .name), ("exe", .image), ("cwd", .directory)]

def links : List (String × String) :=
  [("/bin", "usr/bin"), ("/lib", "usr/lib"), ("/sbin", "usr/sbin"), ("/usr/bin/sh", "dash"),
    ("/dev/fd", "/proc/self/fd"), ("/dev/stdin", "/proc/self/fd/0"),
    ("/dev/stdout", "/proc/self/fd/1"), ("/dev/stderr", "/proc/self/fd/2")]

/-- Files that say something about the machine. -/
def papers : List (String × String) :=
  [("/etc/passwd", Account.passwords), ("/etc/group", Account.memberships),
    ("/etc/shells", Account.shells)]

/-- How many descriptors have names. -/
def namedDescriptors : Nat := 64

/-- Leaves all files to the system. -/
def settled (s : System) : System :=
  s.setFiles ⟨s.files.nodes.map fun node => { node with system := true }⟩

/-- A machine on which nothing has run yet. -/
def fresh : System :=
  settled <|
  let s := directories.foldl (fun s (path, mode) => s.makeDirectory path mode) ({} : System)
  let s := devices.foldl (fun s (name, d) => s.makeSpecial ("/dev/" ++ name) (.device d) 0o666) s
  let s := links.foldl (fun s (path, target) => s.makeSpecial path (.link target) 0o777) s
  let s := papers.foldl (fun s (path, text) => s.makeFile path text.toUTF8 0o644) s
  let s := facts.foldl (fun s (name, f) => s.makeSpecial ("/proc/self/" ++ name) (.fact f) 0o444) s
  let s := (List.range namedDescriptors).foldl
    (fun s n => s.makeSpecial ("/proc/self/fd/" ++ toString n) (.descriptor n) 0o777) s
  (shells.map (·.1) ++ tools.map (·.1)).foldl
    (fun s name => s.makeSpecial ("/usr/bin/" ++ name) (.file (Kernel.imageOf name)) 0o755) s

end CellRunner.Machine
