/-
Calls on processes and threads: creation, identity, limits, priorities and scheduling.
-/
import SyscallDecode.Signature.Prototype

namespace SyscallDecode.Prototype

/-- The calls, by number. -/
def processCalls : List Prototype :=
  [call 24 "sched_yield" [],
   call 39 "getpid" [],
   call 56 "clone"
     [arg "unsigned long" "clone_flags", arg "unsigned long" "newsp", output "int" "parent_tid",
      output "int" "child_tid"],
   call 57 "fork" [],
   call 58 "vfork" [],
   call 59 "execve"
     [input "char" "filename", input "char __user *" "argv", input "char __user *" "envp"],
   call 60 "exit" [arg "int" "error_code"],
   call 61 "wait4"
     [arg "pid_t" "upid", output "int" "stat_addr", arg "int" "options",
      output "struct rusage" "ru"],
   call 62 "kill" [arg "pid_t" "pid", arg "int" "sig"],
   call 97 "getrlimit" [arg "unsigned int" "resource", output "struct rlimit" "rlim"],
   call 98 "getrusage" [arg "int" "who", output "struct rusage" "ru"],
   call 100 "times" [output "struct tms" "tbuf"],
   call 101 "ptrace"
     [arg "long" "request", arg "long" "pid", arg "long" "addr", arg "long" "data"],
   call 102 "getuid" [],
   call 104 "getgid" [],
   call 105 "setuid" [arg "uid_t" "uid"],
   call 106 "setgid" [arg "gid_t" "gid"],
   call 107 "geteuid" [],
   call 108 "getegid" [],
   call 109 "setpgid" [arg "pid_t" "pid", arg "pid_t" "pgid"],
   call 110 "getppid" [],
   call 111 "getpgrp" [],
   call 112 "setsid" [],
   call 113 "setreuid" [arg "uid_t" "ruid", arg "uid_t" "euid"],
   call 114 "setregid" [arg "gid_t" "rgid", arg "gid_t" "egid"],
   call 115 "getgroups" [arg "int" "gidsetsize", output "gid_t" "grouplist"],
   call 116 "setgroups" [arg "int" "gidsetsize", input "gid_t" "grouplist"],
   call 117 "setresuid" [arg "uid_t" "ruid", arg "uid_t" "euid", arg "uid_t" "suid"],
   call 118 "getresuid" [output "uid_t" "ruid", output "uid_t" "euid", output "uid_t" "suid"],
   call 119 "setresgid" [arg "gid_t" "rgid", arg "gid_t" "egid", arg "gid_t" "sgid"],
   call 120 "getresgid" [output "gid_t" "rgid", output "gid_t" "egid", output "gid_t" "sgid"],
   call 121 "getpgid" [arg "pid_t" "pid"],
   call 122 "setfsuid" [arg "uid_t" "uid"],
   call 123 "setfsgid" [arg "gid_t" "gid"],
   call 124 "getsid" [arg "pid_t" "pid"],
   call 125 "capget"
     [input "struct __user_cap_header_struct" "header",
      output "struct __user_cap_data_struct" "dataptr"],
   call 126 "capset"
     [input "struct __user_cap_header_struct" "header",
      input "const struct __user_cap_data_struct" "data"],
   call 135 "personality" [arg "unsigned long" "personality"],
   call 140 "getpriority" [arg "int" "which", arg "int" "who"],
   call 141 "setpriority" [arg "int" "which", arg "int" "who", arg "int" "niceval"],
   call 142 "sched_setparam" [arg "pid_t" "pid", input "struct sched_param" "param"],
   call 143 "sched_getparam" [arg "pid_t" "pid", output "struct sched_param" "param"],
   call 144 "sched_setscheduler"
     [arg "pid_t" "pid", arg "int" "policy", input "struct sched_param" "param"],
   call 145 "sched_getscheduler" [arg "pid_t" "pid"],
   call 146 "sched_get_priority_max" [arg "int" "policy"],
   call 147 "sched_get_priority_min" [arg "int" "policy"],
   call 148 "sched_rr_get_interval" [arg "pid_t" "pid", output "struct timespec" "interval"],
   call 157 "prctl"
     [arg "int" "option", arg "unsigned long" "arg2", arg "unsigned long" "arg3",
      arg "unsigned long" "arg4", arg "unsigned long" "arg5"],
   call 158 "arch_prctl" [arg "int" "code", arg "unsigned long" "addr"],
   call 160 "setrlimit" [arg "unsigned int" "resource", input "struct rlimit" "rlim"],
   call 186 "gettid" [],
   call 200 "tkill" [arg "int" "pid", arg "int" "sig"],
   call 202 "futex"
     [input "u32" "uaddr", arg "int" "op", arg "u32" "val", input "struct timespec" "utime",
      input "u32" "uaddr2", arg "u32" "val3"],
   call 203 "sched_setaffinity"
     [arg "pid_t" "pid", arg "unsigned int" "len", input "unsigned long" "user_mask_ptr"],
   call 204 "sched_getaffinity"
     [arg "pid_t" "pid", arg "unsigned int" "len", output "unsigned long" "user_mask_ptr"],
   call 218 "set_tid_address" [input "int" "tidptr"],
   call 231 "exit_group" [arg "int" "error_code"],
   call 234 "tgkill" [arg "int" "tgid", arg "int" "pid", arg "int" "sig"],
   call 247 "waitid"
     [arg "int" "which", arg "pid_t" "pid", output "struct siginfo" "infop", arg "int" "options",
      output "struct rusage" "ru"],
   call 251 "ioprio_set" [arg "int" "which", arg "int" "who", arg "int" "ioprio"],
   call 252 "ioprio_get" [arg "int" "which", arg "int" "who"],
   call 272 "unshare" [arg "unsigned long" "unshare_flags"],
   call 273 "set_robust_list" [input "struct robust_list_head" "head", arg "size_t" "len"],
   call 274 "get_robust_list"
     [arg "int" "pid", output "struct robust_list_head __user *" "head_ptr",
      output "size_t" "len_ptr"],
   call 298 "perf_event_open"
     [input "struct perf_event_attr" "attr_uptr", arg "pid_t" "pid", arg "int" "cpu",
      arg "int" "group_fd", arg "unsigned long" "flags"]]

end SyscallDecode.Prototype
