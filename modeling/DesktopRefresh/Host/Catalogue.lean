import DesktopRefresh.Host.FileTree

/-!
# The files of a bare system

What is there before anything was installed: the directories of the system, its programs by name, its
devices, and a few files that describe it.
-/

namespace DesktopRefresh.Catalogue

def location (names : List String) : Location := names.map Bytes.ofString

/-- The programs in `/usr/bin`. -/
def userPrograms : List String :=
  ["[", "apt", "apt-get", "arch", "awk", "b2sum", "base32", "base64", "basename", "basenc", "bash", "bunzip2", "bzip2",
    "cat", "chage", "chattr", "chfn", "chgrp", "chmod", "chown", "chrt", "chsh", "cksum", "clear", "cmp", "comm", "cp",
    "csplit", "cut", "dash", "date", "dd", "df", "diff", "diff3", "dir", "dircolors", "dirname", "dmesg", "dpkg", "du",
    "echo", "egrep", "env", "expand", "expiry", "expr", "factor", "false", "fgrep", "find", "flock", "fmt", "fold",
    "free", "getent", "getopt", "gpasswd", "grep", "groups", "gunzip", "gzip", "head", "hostid", "hostname", "iconv",
    "id", "infocmp", "install", "ionice", "ipcrm", "ipcs", "join", "kill", "last", "ldd", "link", "ln", "locale",
    "logger", "login", "logname", "ls", "lsattr", "lsblk", "lscpu", "lsof", "mawk", "md5sum", "mesg",
    "mkdir", "mkfifo", "mknod", "mktemp", "more", "mount", "mountpoint", "mv", "namei", "nawk", "newgrp", "nice", "nl",
    "nohup", "nproc", "nsenter", "numfmt", "od", "passwd", "paste", "pathchk", "perl", "pgrep", "pinky", "pkill", "pr",
    "printenv", "printf", "prlimit", "ps", "ptx", "pwd", "rbash", "readlink", "realpath", "renice", "reset", "rev",
    "rgrep", "rm", "rmdir", "run-parts", "savelog", "script", "sdiff", "sed", "seq", "setpriv", "setsid", "sg", "sh",
    "sha1sum", "sha224sum", "sha256sum", "sha384sum", "sha512sum", "shred", "shuf", "sleep", "sort", "split", "stat",
    "stdbuf", "stty", "su", "sum", "sync", "tabs", "tac", "tail", "tar", "taskset", "tee", "tempfile", "test", "tic",
    "timeout", "toe", "top", "touch", "tput", "tr", "true", "truncate", "tset", "tsort", "tty", "tzselect", "umount",
    "uname", "unexpand", "uniq", "unlink", "unshare", "uptime", "users", "vdir", "vmstat", "w", "watch", "wc",
    "whereis", "which", "who", "whoami", "xargs", "yes", "zcat", "zcmp", "zdiff", "zgrep", "zless", "zmore"]

/-- The programs in `/usr/sbin`. -/
def adminPrograms : List String :=
  ["addgroup", "adduser", "agetty", "blkid", "chpasswd", "chroot", "delgroup", "deluser", "e2fsck", "fdisk",
    "fsck", "getty", "groupadd", "groupdel", "groupmod", "grpck", "iconvconfig", "ldconfig", "losetup",
    "mkfs", "mkswap", "nologin", "pivot_root", "pwck", "pwconv", "service", "shadowconfig", "start-stop-daemon",
    "sulogin", "swapoff", "swapon", "sysctl", "useradd", "userdel", "usermod", "vipw", "zdump", "zic"]

def directories : List (List String) :=
  [["boot"], ["dev"], ["etc"], ["home"], ["media"], ["mnt"], ["opt"], ["proc"], ["root"], ["run"], ["srv"], ["sys"],
    ["tmp"], ["usr"], ["usr", "bin"], ["usr", "games"], ["usr", "include"], ["usr", "lib"], ["usr", "libexec"], ["usr", "local"],
    ["usr", "local", "bin"], ["usr", "local", "etc"], ["usr", "local", "lib"], ["usr", "local", "sbin"],
    ["usr", "local", "share"], ["usr", "sbin"], ["usr", "share"], ["usr", "share", "doc"], ["usr", "share", "man"],
    ["var"], ["var", "cache"], ["var", "lib"], ["var", "log"], ["var", "spool"], ["var", "tmp"], ["dev", "fd"],
    ["dev", "shm"]]

def links : List (List String × String) :=
  [(["bin"], "usr/bin"), (["sbin"], "usr/sbin"), (["lib"], "usr/lib"), (["lib64"], "usr/lib"), (["var", "run"], "/run")]

/-- The users by name, with the numbers of them and of their groups, what they are, home and shell. -/
def users : List (String × Nat × Nat × String × String × String) :=
  [("root", 0, 0, "root", "/root", "/bin/bash"), ("daemon", 1, 1, "daemon", "/usr/sbin", "/usr/sbin/nologin"),
    ("bin", 2, 2, "bin", "/bin", "/usr/sbin/nologin"), ("sys", 3, 3, "sys", "/dev", "/usr/sbin/nologin"),
    ("sync", 4, 65534, "sync", "/bin", "/bin/sync"), ("games", 5, 60, "games", "/usr/games", "/usr/sbin/nologin"),
    ("man", 6, 12, "man", "/var/cache/man", "/usr/sbin/nologin"),
    ("lp", 7, 7, "lp", "/var/spool/lpd", "/usr/sbin/nologin"),
    ("mail", 8, 8, "mail", "/var/mail", "/usr/sbin/nologin"),
    ("news", 9, 9, "news", "/var/spool/news", "/usr/sbin/nologin"),
    ("uucp", 10, 10, "uucp", "/var/spool/uucp", "/usr/sbin/nologin"),
    ("proxy", 13, 13, "proxy", "/bin", "/usr/sbin/nologin"),
    ("www-data", 33, 33, "www-data", "/var/www", "/usr/sbin/nologin"),
    ("backup", 34, 34, "backup", "/var/backups", "/usr/sbin/nologin"),
    ("list", 38, 38, "Mailing List Manager", "/var/list", "/usr/sbin/nologin"),
    ("irc", 39, 39, "ircd", "/run/ircd", "/usr/sbin/nologin"),
    ("_apt", 42, 65534, "", "/nonexistent", "/usr/sbin/nologin"),
    ("nobody", 65534, 65534, "nobody", "/nonexistent", "/usr/sbin/nologin")]

def groups : List (String × Nat) :=
  [("root", 0), ("daemon", 1), ("bin", 2), ("sys", 3), ("adm", 4), ("tty", 5), ("disk", 6), ("lp", 7),
    ("mail", 8), ("news", 9), ("uucp", 10), ("man", 12), ("proxy", 13), ("kmem", 15), ("dialout", 20),
    ("fax", 21), ("voice", 22), ("cdrom", 24), ("floppy", 25), ("tape", 26), ("sudo", 27), ("audio", 29),
    ("dip", 30), ("www-data", 33), ("backup", 34), ("operator", 37), ("list", 38), ("irc", 39), ("src", 40),
    ("shadow", 42), ("utmp", 43), ("video", 44), ("sasl", 45), ("plugdev", 46), ("staff", 50), ("games", 60),
    ("users", 100), ("nogroup", 65534)]

def userList : String :=
  String.join (users.map fun (name, user, group, about, home, shell) =>
    s!"{name}:x:{user}:{group}:{about}:{home}:{shell}\n")

def groupList : String := String.join (groups.map fun (name, number) => s!"{name}:x:{number}:\n")

def files : List (List String × String) :=
  [(["etc", "group"], groupList), (["etc", "hostname"], "localhost\n"), (["etc", "hosts"], "127.0.0.1\tlocalhost\n"),
    (["etc", "passwd"], userList), (["etc", "shadow"], "root:*:19000:0:99999:7:::\n")]

def devices : List (List String × Device) :=
  [(["dev", "null"], .null), (["dev", "zero"], .zero), (["dev", "full"], .full),
    (["dev", "stdin"], .descriptor 0), (["dev", "stdout"], .descriptor 1), (["dev", "stderr"], .descriptor 2)] ++
  (List.range 10).map fun n => (["dev", "fd", toString n], .descriptor n)

/-- The mode of a directory in which everybody can leave files that only the owner can remove. -/
def sharedMode : Nat := 0o1777

def isShared (names : List String) : Bool := [["tmp"], ["var", "tmp"], ["dev", "shm"]].contains names

def entries : List (Location × Entry) :=
  directories.map (fun d => (location d, Entry.directory (if isShared d then sharedMode else 0o755))) ++
  links.map (fun (names, target) => (location names, Entry.link (Bytes.ofString target))) ++
  files.map (fun (names, text) => (location names, Entry.file 0o644 (Bytes.ofString text))) ++
  devices.map (fun (names, d) => (location names, Entry.device d)) ++
  userPrograms.map (fun name => (location ["usr", "bin", name], Entry.program name)) ++
  adminPrograms.map (fun name => (location ["usr", "sbin", name], Entry.program name))

/-- The home directory of the user that everything runs as. -/
def home : Bytes := Bytes.ofString "/root"

end DesktopRefresh.Catalogue
