/-
Calls on signals.
-/
import SyscallDecode.Signature.Prototype

namespace SyscallDecode.Prototype

/-- The calls, by number. -/
def signalCalls : List Prototype :=
  [call 13 "rt_sigaction"
     [arg "int" "sig", input "const struct sigaction" "act", output "struct sigaction" "oact",
      arg "size_t" "sigsetsize"],
   call 14 "rt_sigprocmask"
     [arg "int" "how", input "sigset_t" "set", output "sigset_t" "oset",
      arg "size_t" "sigsetsize"],
   call 15 "rt_sigreturn" [],
   call 34 "pause" [],
   call 127 "rt_sigpending" [output "sigset_t" "set", arg "size_t" "sigsetsize"],
   call 128 "rt_sigtimedwait"
     [input "const sigset_t" "uthese", output "siginfo_t" "uinfo",
      input "const struct timespec" "uts", arg "size_t" "sigsetsize"],
   call 129 "rt_sigqueueinfo" [arg "int" "pid", arg "int" "sig", input "siginfo_t" "uinfo"],
   call 130 "rt_sigsuspend" [input "sigset_t" "unewset", arg "size_t" "sigsetsize"],
   call 131 "sigaltstack" [input "const stack_t" "uss", output "stack_t" "uoss"],
   call 219 "restart_syscall" [],
   call 297 "rt_tgsigqueueinfo"
     [arg "pid_t" "tgid", arg "pid_t" "pid", arg "int" "sig", input "siginfo_t" "uinfo"]]

end SyscallDecode.Prototype
