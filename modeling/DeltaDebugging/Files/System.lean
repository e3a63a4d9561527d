import DeltaDebugging.Files.Basic

/-!
# The files of a plain system

Its directories, devices and programs, before anything of the user's is there.
-/
namespace DeltaDebugging.Files

def programs : List String :=
  ["[", "arch", "awk", "b2sum", "base32", "base64", "basename", "basenc", "bash", "cat", "chgrp",
    "chmod", "chown", "cksum", "cmp", "comm", "cp", "csplit", "cut", "dash", "date", "dd", "diff",
    "dir", "dirname", "echo", "egrep", "env", "expand", "expr", "factor", "false", "fgrep", "find",
    "fmt", "fold", "grep", "groups", "head", "hostid", "id", "install", "join", "link", "ln",
    "logname", "ls", "md5sum", "mkdir", "mkfifo", "mktemp", "mv", "nice", "nl", "nohup", "nproc",
    "numfmt", "od", "paste", "pathchk", "printenv", "printf", "pwd", "readlink", "realpath", "rev",
    "rm", "rmdir", "sed", "seq", "sh", "sha1sum", "sha224sum", "sha256sum", "sha384sum",
    "sha512sum", "shuf", "sleep", "sort", "split", "stat", "stdbuf", "sum", "sync", "tac", "tail",
    "tee", "test", "timeout", "touch", "tr", "true", "truncate", "tsort", "tty", "uname",
    "unexpand", "uniq", "unlink", "users", "vdir", "wc", "which", "whoami", "xargs", "yes"]

def directories : List Way :=
  [[], ["dev"], ["etc"], ["home"], ["opt"], ["proc"], ["root"], ["run"], ["sys"], ["tmp"], ["usr"],
    ["usr", "bin"], ["usr", "lib"], ["usr", "local"], ["usr", "local", "bin"], ["usr", "sbin"],
    ["usr", "share"], ["var"], ["var", "tmp"], ["dev", "fd"], ["dev", "shm"], ["work"]]

def links : List (Way × String) :=
  [(["bin"], "usr/bin"), (["sbin"], "usr/sbin"), (["lib"], "usr/lib")]

def devices : List (Way × FileKind) :=
  [(["dev", "null"], .device .null), (["dev", "zero"], .device .zero),
    (["dev", "full"], .device .full), (["dev", "random"], .device .random),
    (["dev", "urandom"], .device .random), (["dev", "tty"], .device .terminal),
    (["dev", "stdin"], .descriptor 0), (["dev", "stdout"], .descriptor 1),
    (["dev", "stderr"], .descriptor 2)] ++
    (List.range 10).map fun n => (["dev", "fd", toString n], .descriptor n)

/-- The users besides the superuser and nobody: names, numbers, names in full and home
directories. The group of each has the same number, except where it is the one of nobody. -/
def users : List (String × Nat × Nat × String × String) :=
  [("daemon", 1, 1, "daemon", "/usr/sbin"), ("bin", 2, 2, "bin", "/bin"), ("sys", 3, 3, "sys", "/dev"),
    ("sync", 4, 65534, "sync", "/bin"), ("games", 5, 60, "games", "/usr/games"),
    ("man", 6, 12, "man", "/var/cache/man"), ("lp", 7, 7, "lp", "/var/spool/lpd"),
    ("mail", 8, 8, "mail", "/var/mail"), ("news", 9, 9, "news", "/var/spool/news"),
    ("uucp", 10, 10, "uucp", "/var/spool/uucp"), ("proxy", 13, 13, "proxy", "/bin"),
    ("www-data", 33, 33, "www-data", "/var/www"), ("backup", 34, 34, "backup", "/var/backups"),
    ("list", 38, 38, "Mailing List Manager", "/var/list"), ("irc", 39, 39, "ircd", "/run/ircd"),
    ("_apt", 42, 65534, "", "/nonexistent"), ("nobody", 65534, 65534, "nobody", "/nonexistent")]

def groups : List (String × Nat) :=
  [("root", 0), ("daemon", 1), ("bin", 2), ("sys", 3), ("adm", 4), ("tty", 5), ("disk", 6), ("lp", 7), ("mail", 8),
    ("news", 9), ("uucp", 10), ("man", 12), ("proxy", 13), ("kmem", 15), ("dialout", 20), ("fax", 21), ("voice", 22),
    ("cdrom", 24), ("floppy", 25), ("tape", 26), ("sudo", 27), ("audio", 29), ("dip", 30), ("www-data", 33),
    ("backup", 34), ("operator", 37), ("list", 38), ("irc", 39), ("src", 40), ("shadow", 42), ("utmp", 43),
    ("video", 44), ("sasl", 45), ("plugdev", 46), ("staff", 50), ("games", 60), ("users", 100), ("nogroup", 65534)]

def texts : List (Way × String) :=
  let user (u : String × Nat × Nat × String × String) : String :=
    let (name, number, group, full, home) := u
    let shell := if name = "sync" then "/bin/sync" else "/usr/sbin/nologin"
    name ++ ":x:" ++ toString number ++ ":" ++ toString group ++ ":" ++ full ++ ":" ++ home ++ ":" ++ shell ++ "\n"
  [(["etc", "passwd"], "root:x:0:0:root:/root:/bin/bash\n" ++ String.join (users.map user)),
    (["etc", "group"], String.join (groups.map fun g => g.1 ++ ":x:" ++ toString g.2 ++ ":\n")),
    (["etc", "hosts"], "127.0.0.1\tlocalhost\n")]

/-- The mode of a directory. Some are open to all. -/
def directoryMode (w : Way) : Nat :=
  if [["tmp"], ["var", "tmp"], ["dev", "shm"]].contains w then 0o1777
  else if w = ["root"] then 0o700 else 0o755

/-- When the files of the system were made: a month before its start. -/
def installation : Int := -2592000000000000

/-- A system without files of its own. -/
def system : Files :=
  let all : List (Way × FileKind × Nat) :=
    directories.map (fun w => (w, .directory, directoryMode w)) ++
      links.map (fun l => (l.1, .link l.2, 0o777)) ++
      devices.map (fun d => (d.1, d.2, 0o666)) ++
      texts.map (fun t => (t.1, .regular t.2, 0o644)) ++
      programs.map (fun name => (["usr", "bin", name], .program name, 0o755))
  { nodes := all.zipIdx.map fun e => (e.2, ⟨e.1.2.1, e.1.2.2, installation⟩)
    entries := all.zipIdx.map fun e => (e.1.1, e.2)
    next := all.length
    directory := ["work"] }

end DeltaDebugging.Files
