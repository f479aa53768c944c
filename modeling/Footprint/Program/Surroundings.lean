import Footprint.Program.FileError

/-!
This module contains what stands around the directory of a run: the directories that a usual system
has, the links between them, and its files as far as they matter to a run.
-/

namespace Footprint

inductive Position where
  | own
  | fromRoot (names : List String)
  deriving DecidableEq, Repr

namespace Position

def root : Position := fromRoot []

/--
The directory in which a directory stands. The root stands in itself, and a run has its directory
among the temporary files.
-/
def parent : Position → Position
  | own => fromRoot ["tmp"]
  | fromRoot names => fromRoot names.dropLast

def closed? : Position → Option FileError
  | fromRoot ("proc" :: _) => some .notFound
  | fromRoot ("sys" :: _) => some .notPermitted
  | _ => none

end Position

inductive SystemFile where
  | null
  | full
  | input
  | output
  | messages
  | terminal
  | record
  | tool
  | program
  deriving DecidableEq, Repr

namespace Surroundings

open SystemFile

def directoryNames : List String → List String
  | [] => [
    "boot", "dev", "etc", "home", "media", "mnt", "opt", "proc", "root", "run", "srv", "sys", "tmp",
    "usr", "var"]
  | ["dev"] => ["pts", "shm"]
  | ["etc"] => ["default", "opt", "profile.d", "security", "skel"]
  | ["proc"] => ["1", "bus", "driver", "fs", "irq", "self", "sys", "thread-self", "tty"]
  | ["proc", "self"] | ["proc", "thread-self"] => [
    "attr", "fd", "fdinfo", "map_files", "net", "ns", "task"]
  | ["proc", "sys"] => ["fs", "kernel", "net", "vm"]
  | ["run"] => ["lock"]
  | ["sys"] => [
    "block", "bus", "class", "dev", "devices", "firmware", "fs", "kernel", "module", "power"]
  | ["usr"] => ["bin", "games", "include", "lib", "lib64", "local", "sbin", "share", "src"]
  | ["usr", "local"] => ["bin", "etc", "games", "include", "lib", "sbin", "share", "src"]
  | ["usr", "share"] => ["doc", "info", "man", "misc"]
  | ["var"] => ["cache", "lib", "local", "log", "mail", "opt", "spool", "tmp"]
  | ["var", "lib"] => ["misc"]
  | _ => []

def links : List String → List (String × Position)
  | [] => [
    ("bin", .fromRoot ["usr", "bin"]), ("lib", .fromRoot ["usr", "lib"]),
    ("lib64", .fromRoot ["usr", "lib64"]), ("sbin", .fromRoot ["usr", "sbin"])]
  | ["dev"] => [("fd", .fromRoot ["proc", "self", "fd"])]
  | ["proc"] => [("net", .fromRoot ["proc", "self", "net"])]
  | ["proc", "self"] | ["proc", "thread-self"] => [("cwd", .own), ("root", .root)]
  | ["var"] => [("lock", .fromRoot ["run", "lock"]), ("run", .fromRoot ["run"])]
  | _ => []

def fileNames : List String → List (SystemFile × List String)
  | ["dev"] => [
    (null, ["null", "random", "urandom", "zero"]), (full, ["full"]), (input, ["stdin"]),
    (output, ["stdout"]), (messages, ["stderr"]), (terminal, ["tty"])]
  | ["etc"] => [
    (record, [
      "bash.bashrc", "environment", "fstab", "group", "gshadow", "host.conf", "hostname", "hosts",
      "issue", "ld.so.conf", "login.defs", "mtab", "nsswitch.conf", "os-release", "passwd",
      "profile", "resolv.conf", "shadow", "shells"])]
  | ["proc"] => [
    (record, [
      "cmdline", "consoles", "cpuinfo", "devices", "diskstats", "filesystems", "interrupts",
      "loadavg", "meminfo", "misc", "modules", "mounts", "partitions", "stat", "swaps", "uptime",
      "version", "vmstat"])]
  | ["proc", "self"] | ["proc", "thread-self"] => [
    (record, [
      "cgroup", "cmdline", "comm", "environ", "io", "limits", "maps", "mountinfo", "mounts",
      "mountstats", "oom_score", "sched", "smaps", "stat", "statm", "status"]),
    (program, ["exe"])]
  | ["proc", "self", "fd"] | ["proc", "thread-self", "fd"] => [
    (input, ["0"]), (output, ["1"]), (messages, ["2"])]
  | ["usr", "bin"] => [
    (tool, [
      "awk", "bash", "cat", "chgrp", "chmod", "chown", "cp", "cut", "date", "dd", "df", "du",
      "echo", "env", "expr", "false", "find", "grep", "gzip", "head", "id", "install", "kill", "ln",
      "ls", "md5sum", "mkdir", "mktemp", "mount", "mv", "nice", "nohup", "od", "passwd", "paste",
      "perl", "printf", "pwd", "readlink", "rm", "rmdir", "sed", "seq", "sh", "sleep", "sort",
      "split", "stat", "stty", "su", "sync", "tail", "tar", "tee", "test", "timeout", "touch", "tr",
      "true", "tty", "umount", "uname", "uniq", "wc", "who", "whoami", "xargs", "yes"])]
  | ["usr", "lib"] => [(record, ["os-release"])]
  | _ => []

end Surroundings

end Footprint
