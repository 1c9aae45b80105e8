/-! The users and groups of a machine. -/
namespace Pipework.Users

def homes : List (String × String) := [
  ("root", "/root"), ("daemon", "/usr/sbin"), ("bin", "/bin"), ("sys", "/dev"), ("sync", "/bin"),
  ("games", "/usr/games"), ("man", "/var/cache/man"), ("lp", "/var/spool/lpd"),
  ("mail", "/var/mail"), ("news", "/var/spool/news"), ("uucp", "/var/spool/uucp"),
  ("proxy", "/bin"), ("www-data", "/var/www"), ("backup", "/var/backups"), ("list", "/var/list"),
  ("irc", "/run/ircd"), ("_apt", "/nonexistent"), ("nobody", "/nonexistent")]

/-- The users: name, number, number of the group, description and shell. -/
def users : List (String × Nat × Nat × String × String) := [
  ("root", 0, 0, "root", "/bin/bash"), ("daemon", 1, 1, "daemon", "/usr/sbin/nologin"),
  ("bin", 2, 2, "bin", "/usr/sbin/nologin"), ("sys", 3, 3, "sys", "/usr/sbin/nologin"),
  ("sync", 4, 65534, "sync", "/bin/sync"), ("games", 5, 60, "games", "/usr/sbin/nologin"),
  ("man", 6, 12, "man", "/usr/sbin/nologin"), ("lp", 7, 7, "lp", "/usr/sbin/nologin"),
  ("mail", 8, 8, "mail", "/usr/sbin/nologin"), ("news", 9, 9, "news", "/usr/sbin/nologin"),
  ("uucp", 10, 10, "uucp", "/usr/sbin/nologin"), ("proxy", 13, 13, "proxy", "/usr/sbin/nologin"),
  ("www-data", 33, 33, "www-data", "/usr/sbin/nologin"),
  ("backup", 34, 34, "backup", "/usr/sbin/nologin"),
  ("list", 38, 38, "Mailing List Manager", "/usr/sbin/nologin"),
  ("irc", 39, 39, "ircd", "/usr/sbin/nologin"), ("_apt", 42, 65534, "", "/usr/sbin/nologin"),
  ("nobody", 65534, 65534, "nobody", "/usr/sbin/nologin")]

def userLine : String × Nat × Nat × String × String → String
  | (name, user, group, description, shell) =>
    name ++ ":x:" ++ toString user ++ ":" ++ toString group ++ ":" ++ description ++ ":" ++
      (homes.lookup name).getD "" ++ ":" ++ shell ++ "\n"

def groups : List (String × Nat) := [
  ("root", 0), ("daemon", 1), ("bin", 2), ("sys", 3), ("adm", 4), ("tty", 5), ("disk", 6),
  ("lp", 7), ("mail", 8), ("news", 9), ("uucp", 10), ("man", 12), ("proxy", 13), ("kmem", 15),
  ("dialout", 20), ("fax", 21), ("voice", 22), ("cdrom", 24), ("floppy", 25), ("tape", 26),
  ("sudo", 27), ("audio", 29), ("dip", 30), ("www-data", 33), ("backup", 34), ("operator", 37),
  ("list", 38), ("irc", 39), ("src", 40), ("shadow", 42), ("utmp", 43), ("video", 44),
  ("sasl", 45), ("plugdev", 46), ("staff", 50), ("games", 60), ("users", 100),
  ("nogroup", 65534)]

def groupLine : String × Nat → String
  | (name, number) => name ++ ":x:" ++ toString number ++ ":\n"

end Pipework.Users
