/-
The files of a machine.

Programs are tried on a machine of the usual kind: it has the directories and
the links between them that every such system has, a few files that are always
there, an empty device and some that cannot be read, and a view of the running
program. Besides them there are the files that a rehearsal gives.
-/
import GssContext.Rehearsal.Files
import GssContext.Text.Utf8

set_option autoImplicit false

namespace GssContext.Rehearsal.Machine

/-! ## What is always there -/

/-- Where the program runs. -/
def working : Place := ["work", "rehearsal"]

def directories : List String :=
  ["/boot", "/dev", "/dev/mqueue", "/dev/pts", "/dev/shm", "/etc", "/etc/alternatives", "/etc/apt",
    "/etc/default", "/etc/init.d", "/etc/pam.d", "/etc/profile.d", "/etc/security", "/etc/skel",
    "/etc/ssl", "/etc/ssl/certs", "/home", "/media", "/mnt", "/opt", "/proc", "/proc/1", "/proc/sys",
    "/proc/sys/kernel", "/proc/program", "/proc/program/fd", "/root", "/run", "/run/lock", "/srv",
    "/sys", "/sys/block", "/sys/bus", "/sys/class", "/sys/dev", "/sys/devices", "/sys/fs",
    "/sys/kernel", "/tmp", "/usr", "/usr/bin", "/usr/games", "/usr/include", "/usr/lib",
    "/usr/lib64", "/usr/local", "/usr/local/bin", "/usr/local/etc", "/usr/local/include",
    "/usr/local/lib", "/usr/local/sbin", "/usr/local/share", "/usr/sbin", "/usr/share",
    "/usr/share/doc", "/usr/src", "/var", "/var/backups", "/var/cache", "/var/lib", "/var/local",
    "/var/log", "/var/mail", "/var/opt", "/var/spool", "/var/tmp", "/work", "/work/rehearsal"]

def links : List (String × String) :=
  [("/bin", "usr/bin"), ("/lib", "usr/lib"), ("/lib64", "usr/lib64"), ("/sbin", "usr/sbin"),
    ("/dev/fd", "/proc/self/fd"), ("/dev/stdin", "/proc/self/fd/0"), ("/etc/mtab", "../proc/mounts"),
    ("/etc/os-release", "../usr/lib/os-release"), ("/proc/mounts", "self/mounts"),
    ("/proc/self", "program"), ("/proc/program/cwd", "/work/rehearsal"),
    ("/proc/program/exe", "/usr/local/bin/tokenseal-client"), ("/proc/program/fd/0", "/dev/null"),
    ("/proc/program/root", "/"), ("/usr/bin/sh", "dash"), ("/var/lock", "/run/lock"),
    ("/var/run", "/run")]

/-- A program, which is no text. -/
def program : Bytes := [0x7f, 0x45, 0x4c, 0x46, 0x02, 0x01, 0x01, 0x00, 0xff, 0xfe]

def programs : List String :=
  ["/usr/bin/bash", "/usr/bin/cat", "/usr/bin/cp", "/usr/bin/dash", "/usr/bin/echo", "/usr/bin/env",
    "/usr/bin/false", "/usr/bin/grep", "/usr/bin/ls", "/usr/bin/mv", "/usr/bin/rm", "/usr/bin/sed",
    "/usr/bin/sleep", "/usr/bin/tar", "/usr/bin/true", "/usr/local/bin/tokenseal-client"]

/-- The files of text, with how they begin. -/
def texts : List (String × String) :=
  [("/dev/null", ""), ("/etc/fstab", "# UNCONFIGURED FSTAB FOR BASE SYSTEM\n"),
    ("/etc/group", "root:x:0:\n"), ("/etc/gshadow", "root:*::\n"), ("/etc/hostname", "rehearsal\n"),
    ("/etc/hosts", "127.0.0.1\tlocalhost\n"), ("/etc/nsswitch.conf", "passwd: files\n"),
    ("/etc/passwd", "root:x:0:0:root:/root:/bin/bash\n"), ("/etc/profile", "# profile\n"),
    ("/etc/resolv.conf", "nameserver 127.0.0.1\n"), ("/etc/shadow", "root:*:19000:0:99999:7:::\n"),
    ("/etc/shells", "/bin/sh\n"), ("/proc/cpuinfo", "processor\t: 0\n"),
    ("/proc/meminfo", "MemTotal: 0 kB\n"), ("/proc/uptime", "0.00 0.00\n"),
    ("/proc/version", "Linux version\n"), ("/proc/program/cmdline", "tokenseal-client"),
    ("/proc/program/mounts", "/ / rw 0 0\n"), ("/proc/program/status", "Name:\ttokenseal-client\n"),
    ("/usr/lib/os-release", "NAME=\n")]

/-- The devices that cannot be read: nobody sits at a terminal, and nothing is
kept at the first addresses of the memory. -/
def devices : List (String × IoError) :=
  [("/dev/tty", .reported .other "No such device or address (os error 6)"),
    ("/proc/program/mem", .reported .other "Input/output error (os error 5)")]

/-- The place of a path that begins at the root. -/
def placeOf (path : String) : Place := (steps path).filter (· != "")

def usual : List (Place × Entry) :=
  directories.map (fun path => (placeOf path, .directory)) ++
    links.map (fun (path, target) => (placeOf path, .link target)) ++
    programs.map (fun path => (placeOf path, .file program)) ++
    devices.map (fun (path, failure) => (placeOf path, .mute failure)) ++
    texts.map fun (path, text) => (placeOf path, .file (Utf8.encode text))

/-! ## What is given -/

/-- The directory of the files that are given. -/
def givenDirectory : Place := ["tmp", "given"]

/-- The path of a file that is given, by its name. -/
def givenPath (name : String) : String := "/tmp/given/" ++ name

/-- A machine with some files more, by their names. -/
def files (given : List (String × Bytes)) : Files where
  entries := given.map (fun (name, content) => (givenDirectory ++ [name], .file content)) ++
    (givenDirectory, .directory) :: usual
  working := working
  ruled := ["proc", "sys"]

end GssContext.Rehearsal.Machine
