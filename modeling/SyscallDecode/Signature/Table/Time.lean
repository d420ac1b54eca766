/-
Calls on clocks and timers.
-/
import SyscallDecode.Signature.Prototype

namespace SyscallDecode.Prototype

/-- The calls, by number. -/
def timeCalls : List Prototype :=
  [call 35 "nanosleep" [input "struct timespec" "rqtp", output "struct timespec" "rmtp"],
   call 36 "getitimer" [arg "int" "which", output "struct itimerval" "value"],
   call 37 "alarm" [arg "unsigned int" "seconds"],
   call 38 "setitimer"
     [arg "int" "which", input "struct itimerval" "value", output "struct itimerval" "ovalue"],
   call 96 "gettimeofday" [output "struct timeval" "tv", output "struct timezone" "tz"],
   call 159 "adjtimex" [input "struct timex" "txc_p"],
   call 164 "settimeofday" [input "struct timeval" "tv", input "struct timezone" "tz"],
   call 201 "time" [output "time_t" "tloc"],
   call 222 "timer_create"
     [arg "clockid_t" "which_clock", input "struct sigevent" "timer_event_spec",
      output "timer_t" "created_timer_id"],
   call 223 "timer_settime"
     [arg "timer_t" "timer_id", arg "int" "flags", input "const struct itimerspec" "new_setting",
      output "struct itimerspec" "old_setting"],
   call 224 "timer_gettime" [arg "timer_t" "timer_id", output "struct itimerspec" "setting"],
   call 225 "timer_getoverrun" [arg "timer_t" "timer_id"],
   call 226 "timer_delete" [arg "timer_t" "timer_id"],
   call 227 "clock_settime" [arg "clockid_t" "which_clock", input "const struct timespec" "tp"],
   call 228 "clock_gettime" [arg "clockid_t" "which_clock", output "struct timespec" "tp"],
   call 229 "clock_getres" [arg "clockid_t" "which_clock", output "struct timespec" "tp"],
   call 230 "clock_nanosleep"
     [arg "clockid_t" "which_clock", arg "int" "flags", input "const struct timespec" "rqtp",
      output "struct timespec" "rmtp"]]

end SyscallDecode.Prototype
