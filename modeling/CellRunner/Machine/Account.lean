/-!
# Users and groups

The accounts of a machine as its account files list them.
-/

set_option autoImplicit false

namespace CellRunner.Machine

structure Account where
  name : String
  number : Nat
  group : Nat
  comment : String := ""
  home : String
  shell : String := "/usr/sbin/nologin"

structure Group where
  name : String
  number : Nat

namespace Account

def users : List Account :=
  [⟨"root", 0, 0, "root", "/root", "/bin/bash"⟩,
    ⟨"daemon", 1, 1, "daemon", "/usr/sbin", "/usr/sbin/nologin"⟩,
    ⟨"bin", 2, 2, "bin", "/bin", "/usr/sbin/nologin"⟩,
    ⟨"sys", 3, 3, "sys", "/dev", "/usr/sbin/nologin"⟩,
    ⟨"sync", 4, 65534, "sync", "/bin", "/bin/sync"⟩,
    ⟨"games", 5, 60, "games", "/usr/games", "/usr/sbin/nologin"⟩,
    ⟨"man", 6, 12, "man", "/var/cache/man", "/usr/sbin/nologin"⟩,
    ⟨"lp", 7, 7, "lp", "/var/spool/lpd", "/usr/sbin/nologin"⟩,
    ⟨"mail", 8, 8, "mail", "/var/mail", "/usr/sbin/nologin"⟩,
    ⟨"news", 9, 9, "news", "/var/spool/news", "/usr/sbin/nologin"⟩,
    ⟨"uucp", 10, 10, "uucp", "/var/spool/uucp", "/usr/sbin/nologin"⟩,
    ⟨"proxy", 13, 13, "proxy", "/bin", "/usr/sbin/nologin"⟩,
    ⟨"www-data", 33, 33, "www-data", "/var/www", "/usr/sbin/nologin"⟩,
    ⟨"backup", 34, 34, "backup", "/var/backups", "/usr/sbin/nologin"⟩,
    ⟨"list", 38, 38, "Mailing List Manager", "/var/list", "/usr/sbin/nologin"⟩,
    ⟨"irc", 39, 39, "ircd", "/run/ircd", "/usr/sbin/nologin"⟩,
    ⟨"_apt", 42, 65534, "", "/nonexistent", "/usr/sbin/nologin"⟩,
    ⟨"nobody", 65534, 65534, "nobody", "/nonexistent", "/usr/sbin/nologin"⟩,
    ⟨"model", 1000, 1000, "", "/home/model", "/bin/sh"⟩]

def groups : List Group :=
  [⟨"root", 0⟩, ⟨"daemon", 1⟩, ⟨"bin", 2⟩, ⟨"sys", 3⟩, ⟨"adm", 4⟩, ⟨"tty", 5⟩, ⟨"disk", 6⟩,
    ⟨"lp", 7⟩, ⟨"mail", 8⟩, ⟨"news", 9⟩, ⟨"uucp", 10⟩, ⟨"man", 12⟩, ⟨"proxy", 13⟩, ⟨"kmem", 15⟩,
    ⟨"dialout", 20⟩, ⟨"fax", 21⟩, ⟨"voice", 22⟩, ⟨"cdrom", 24⟩, ⟨"floppy", 25⟩, ⟨"tape", 26⟩,
    ⟨"sudo", 27⟩, ⟨"audio", 29⟩, ⟨"dip", 30⟩, ⟨"www-data", 33⟩, ⟨"backup", 34⟩, ⟨"operator", 37⟩,
    ⟨"list", 38⟩, ⟨"irc", 39⟩, ⟨"src", 40⟩, ⟨"shadow", 42⟩, ⟨"utmp", 43⟩, ⟨"video", 44⟩,
    ⟨"sasl", 45⟩, ⟨"plugdev", 46⟩, ⟨"staff", 50⟩, ⟨"games", 60⟩, ⟨"users", 100⟩, ⟨"nogroup", 65534⟩,
    ⟨"model", 1000⟩]

def line (a : Account) : String :=
  String.intercalate ":"
    [a.name, "x", toString a.number, toString a.group, a.comment, a.home, a.shell] ++ "\n"

/-- The file of users. -/
def passwords : String := String.join (users.map line)

/-- The file of groups. -/
def memberships : String :=
  String.join (groups.map fun g => String.intercalate ":" [g.name, "x", toString g.number, "\n"])

/-- The file of programs that a user may have as a shell. -/
def shells : String :=
  "# /etc/shells: valid login shells\n" ++
    String.join (["/bin/sh", "/usr/bin/sh", "/bin/bash", "/usr/bin/bash", "/bin/rbash",
      "/usr/bin/rbash", "/usr/bin/dash"].map (· ++ "\n"))

/-- The user who runs programs. -/
def user : Account := users.getLastD ⟨"root", 0, 0, "root", "/root", "/bin/bash"⟩

def named? (name : String) : Option Account := users.find? (·.name == name)

/-- The number of a user or group with a name. -/
def number? (name : String) : Option Nat :=
  match named? name with
  | some a => some a.number
  | none => (groups.find? (·.name == name)).map (·.number)

end Account

end CellRunner.Machine
