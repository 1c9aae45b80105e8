import Pipework.Kernel.Loader
import Pipework.Kernel.Users

/-! The files that every machine has besides its programs: the usual directories, the devices, the
links between them, and the lists of users and groups. -/
namespace Pipework

namespace FileSystem

open Bytes

def empty (clock : Nat) : FileSystem :=
  { nodes := #[{ mode := 0o755, content := .directory { parent := root }, links := 2,
                 accessed := 1000 * (clock : Int), modified := 1000 * (clock : Int) }], clock }

def entry? (fs : FileSystem) (dir : Inode) (name : Bytes) : Option Inode :=
  match dir with
  | .stored n => do (← (← fs.nodes[n]?).directory?).entries.lookup name
  | _ => none

/-- The directory that names lead to from another, made where they lead to nothing. -/
def plantDirectories (fs : FileSystem) (dir : Inode) : List Bytes → Inode × FileSystem
  | [] => (dir, fs)
  | name :: rest =>
    match fs.entry? dir name with
    | some i => fs.plantDirectories i rest
    | none =>
      let (i, fs) := fs.create ⟨dir, name⟩
        { mode := 0o755, content := .directory { parent := dir }, links := 2 }
      fs.plantDirectories i rest

/-- Puts a node at a path from the root, and directories above it. -/
def plant (path : String) (mode : Nat) (content : Content) (fs : FileSystem) : FileSystem :=
  let names := components (ofText path)
  let (dir, fs) := fs.plantDirectories root names.dropLast
  match names.getLast? with
  | some name => (fs.create ⟨dir, name⟩ { mode, content }).2
  | none => fs

def plantDirectory (path : String) (mode : Nat) (fs : FileSystem) : FileSystem :=
  let (i, fs) := fs.plantDirectories root (components (ofText path))
  fs.modify i fun node => { node with mode }

end FileSystem

namespace Layout

def text (lines : List String) : Content := .regular ("".intercalate lines).toUTF8

def directories : List String := [
  "boot", "dev/pts", "etc/alternatives", "etc/apt", "etc/cron.daily", "etc/default",
  "etc/init.d", "etc/opt", "etc/pam.d", "etc/profile.d", "etc/security", "etc/skel", "etc/ssl",
  "home", "media", "mnt", "opt", "run/lock", "srv", "sys", "usr/bin", "usr/games", "usr/include",
  "usr/lib/x86_64-linux-gnu", "usr/lib64", "usr/libexec", "usr/local/bin", "usr/local/etc",
  "usr/local/games", "usr/local/include", "usr/local/lib", "usr/local/sbin", "usr/local/share",
  "usr/local/src", "usr/sbin", "usr/share/doc", "usr/share/man", "usr/src", "var/backups",
  "var/cache/apt", "var/lib/apt", "var/lib/dpkg", "var/log", "var/mail", "var/opt", "var/spool"]

def links : List (String × String) := [
  ("bin", "usr/bin"), ("sbin", "usr/sbin"), ("lib", "usr/lib"), ("lib64", "usr/lib64"),
  ("dev/fd", "/proc/self/fd"), ("dev/stdin", "/proc/self/fd/0"),
  ("dev/stdout", "/proc/self/fd/1"), ("dev/stderr", "/proc/self/fd/2"),
  ("dev/core", "/proc/kcore"), ("var/lock", "/run/lock"), ("var/run", "/run"),
  ("usr/bin/sh", "dash"), ("usr/bin/rbash", "bash"), ("usr/local/man", "share/man")]

def devices : List (String × Device) := [
  ("dev/null", .null), ("dev/zero", .zeros), ("dev/full", .full), ("dev/random", .random),
  ("dev/urandom", .endlessRandom), ("dev/tty", .terminal)]

def lists : List (String × Content) := [
  ("etc/passwd", text (Users.users.map Users.userLine)), ("etc/group", text (Users.groups.map Users.groupLine)),
  ("etc/hostname", text ["localhost\n"]), ("etc/hosts", text ["127.0.0.1\tlocalhost\n"]),
  ("etc/shells", text ["# /etc/shells: valid login shells\n", "/bin/sh\n", "/usr/bin/sh\n",
    "/bin/bash\n", "/usr/bin/bash\n", "/bin/rbash\n", "/usr/bin/rbash\n", "/usr/bin/dash\n"]),
  ("etc/resolv.conf", text []), ("etc/fstab", text ["# UNCONFIGURED FSTAB FOR BASE SYSTEM\n"]),
  ("etc/profile", text ["# /etc/profile\n"])]

/-- Programs that a machine has and that are not run on it. -/
def bystanders : List String := [
  "apt", "apt-get", "bash", "bzip2", "chsh", "dmesg", "dpkg", "gzip", "hostname", "login", "mount",
  "passwd", "perl", "ps", "su", "tar", "umount"]

def plant (fs : FileSystem) : FileSystem :=
  let fs := directories.foldl (fun fs path => fs.plantDirectory path 0o755) fs
  let fs := fs.plantDirectory "root" 0o700 |>.plantDirectory "tmp" 0o1777
    |>.plantDirectory "var/tmp" 0o1777 |>.plantDirectory "dev/shm" 0o1777
  let fs := links.foldl (fun fs (path, target) =>
    fs.plant path 0o777 (.symlink (Bytes.ofText target))) fs
  let fs := devices.foldl (fun fs (path, device) => fs.plant path 0o666 (.device device)) fs
  let fs := lists.foldl (fun fs (path, content) => fs.plant path 0o644 content) fs
  let fs := fs.plant "etc/shadow" 0o640 (text ["root:*:19000:0:99999:7:::\n"])
  let fs := bystanders.foldl (fun fs name => fs.plant ("usr/bin/" ++ name) 0o755
    (.regular (ProgramFile.data []))) fs
  fs.link ⟨FileSystem.root, Bytes.ofText "proc"⟩ .processes

end Layout

end Pipework
