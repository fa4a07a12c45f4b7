import BatchRunner.Files.Workspace
import BatchRunner.Machine.Host

/-!
# The usual machine

A machine with the directories, devices and programs that a batch may expect to find.
-/

namespace BatchRunner.Machine

/-- The programs for files and texts that every machine has. -/
def fileTools : List String := [
  "[", "arch", "b2sum", "base32", "base64", "basename", "basenc", "cat", "chcon", "chgrp", "chmod", "chown", "cksum",
  "comm", "cp", "csplit", "cut", "date", "dd", "df", "dir", "dircolors", "dirname", "du", "echo", "env", "expand",
  "expr", "factor", "false", "fmt", "fold", "groups", "head", "hostid", "id", "install", "join", "link", "ln",
  "logname", "ls", "md5sum", "mkdir", "mkfifo", "mknod", "mktemp", "mv", "nice", "nl", "nohup", "nproc", "numfmt",
  "od", "paste", "pathchk", "pinky", "pr", "printenv", "printf", "ptx", "pwd", "readlink", "realpath", "rm", "rmdir",
  "runcon", "seq", "sha1sum", "sha224sum", "sha256sum", "sha384sum", "sha512sum", "shred", "shuf", "sleep", "sort",
  "split", "stat", "stdbuf", "stty", "sum", "sync", "tac", "tail", "tee", "test", "timeout", "touch", "tr", "true",
  "truncate", "tsort", "tty", "uname", "unexpand", "uniq", "unlink", "users", "vdir", "wc", "who", "whoami", "yes"]

/-- The other programs that every machine has. -/
def systemTools : List String := [
  "apt", "apt-cache", "apt-config", "apt-get", "apt-mark", "awk", "bash", "chage", "chattr", "choom", "chrt", "chsh",
  "clear", "cmp", "dash", "diff", "diff3", "dmesg", "dpkg", "dpkg-deb", "dpkg-query", "egrep", "fallocate", "fgrep",
  "find", "findmnt", "flock", "getconf", "getent", "getopt", "gpasswd", "grep", "gunzip", "gzip", "hostname", "iconv",
  "infocmp", "ionice", "ipcmk", "ipcrm", "ipcs", "ischroot", "last", "ldd", "locale", "logger", "login", "lsattr",
  "lsblk", "lscpu", "lsipc", "lslocks", "lsmem", "lsns", "mawk", "mcookie", "mesg", "more", "mount", "mountpoint",
  "namei", "nawk", "newgrp", "nsenter", "passwd", "perl", "pidof", "prlimit", "rbash", "renice", "reset", "rgrep",
  "run-parts", "savelog", "script", "sdiff", "sed", "setarch", "setpriv", "setsid", "sg", "sh", "su", "tabs", "tar",
  "taskset", "tic", "tput", "tset", "umount", "uncompress", "unshare", "wall", "whereis", "which", "xargs", "zcat",
  "zcmp", "zdiff", "zgrep", "zless", "zmore"]

/-- The directories that every machine has. -/
def usualDirectories : List Files.Path := [
  ["boot"], ["dev"], ["dev", "fd"], ["dev", "shm"], ["etc"], ["home"], ["lib64"], ["media"], ["mnt"], ["opt"], ["proc"],
  ["root"], ["run"], ["srv"], ["sys"], ["tmp"], ["usr"], ["usr", "bin"], ["usr", "include"], ["usr", "lib"],
  ["usr", "local"], ["usr", "local", "bin"], ["usr", "local", "lib"], ["usr", "local", "sbin"], ["usr", "sbin"],
  ["usr", "share"], ["var"], ["var", "cache"], ["var", "lib"], ["var", "log"], ["var", "tmp"]]

/-- The links that every machine has. -/
def usualLinks : List (Files.Path × String) := [
  (["bin"], "usr/bin"), (["sbin"], "usr/sbin"), (["lib"], "usr/lib"), (["var", "run"], "/run")]

/-- The devices that every machine has. -/
def usualDevices : List (Files.Path × Files.Device) :=
  [(["dev", "null"], .null), (["dev", "zero"], .zero), (["dev", "full"], .full), (["dev", "random"], .zero),
    (["dev", "urandom"], .zero), (["dev", "tty"], .terminal), (["dev", "stdin"], .descriptor 0),
    (["dev", "stdout"], .descriptor 1), (["dev", "stderr"], .descriptor 2)] ++
  (List.range 10).map fun fd => (["dev", "fd", toString fd], .descriptor fd)

/-- The files that every machine has. -/
def usualFiles : List (Files.Path × String) := [
  (["etc", "passwd"], "root:x:0:0:root:/root:/bin/bash\nnobody:x:65534:65534:nobody:/nonexistent:/usr/sbin/nologin\n"),
  (["etc", "group"], "root:x:0:\nnogroup:x:65534:\n"),
  (["etc", "hosts"], "127.0.0.1\tlocalhost\n"),
  (["etc", "hostname"], "localhost\n"),
  (["etc", "shells"], "/bin/sh\n/bin/bash\n/bin/dash\n")]

/-- The places that every machine has. -/
def usualTree : Files.Tree where
  entries :=
    usualDirectories.map (·, .directory) ++ usualLinks.map (fun l => (l.1, .link l.2)) ++
    usualDevices.map (fun d => (d.1, .device d.2)) ++
    usualFiles.map (fun f => (f.1, .file 0o644 f.2.toUTF8)) ++
    (fileTools ++ systemTools).map fun name => (["usr", "bin", name], .tool name)

/-- A machine with the usual files on which nothing runs, in a working directory. -/
def usual (cwd : Files.Path) (vars : Variables) : Machine :=
  match Files.makeDirectories usualTree [] cwd with
  | .ok tree => idle tree cwd vars
  | .error _ => idle usualTree cwd vars

/-- The files of a machine, seen from its working directory. -/
def workspacePart : Part Machine Workspace where
  get m := ⟨m.tree, m.cwd⟩
  set space m := { m with tree := space.tree, cwd := space.cwd }

end BatchRunner.Machine
