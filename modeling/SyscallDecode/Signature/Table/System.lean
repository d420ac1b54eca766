/-
Calls on the system as a whole: its names, its log, its modules and its keys.
-/
import SyscallDecode.Signature.Prototype

namespace SyscallDecode.Prototype

/-- The calls, by number. -/
def systemCalls : List Prototype :=
  [call 63 "uname" [output "struct new_utsname" "name"],
   call 99 "sysinfo" [output "struct sysinfo" "info"],
   call 103 "syslog" [arg "int" "type", output "char" "buf", arg "int" "len"],
   call 134 "uselib" [input "const char" "library"],
   call 139 "sysfs" [arg "int" "option", arg "unsigned long" "arg1", arg "unsigned long" "arg2"],
   call 153 "vhangup" [],
   call 156 "_sysctl" [input "struct __sysctl_args" "args"],
   call 163 "acct" [input "const char" "name"],
   call 169 "reboot"
     [arg "int" "magic1", arg "int" "magic2", arg "unsigned int" "cmd", input "void" "arg"],
   call 170 "sethostname" [input "char" "name", arg "int" "len"],
   call 171 "setdomainname" [input "char" "name", arg "int" "len"],
   call 172 "iopl" [arg "unsigned int" "level"],
   call 173 "ioperm" [arg "unsigned long" "from", arg "unsigned long" "num", arg "int" "turn_on"],
   call 175 "init_module"
     [input "void" "umod", arg "unsigned long" "len", input "const char" "uargs"],
   call 176 "delete_module" [input "const char" "name_user", arg "unsigned int" "flags"],
   call 246 "kexec_load"
     [arg "unsigned long" "entry", arg "unsigned long" "nr_segments",
      input "struct kexec_segment" "segments", arg "unsigned long" "flags"],
   call 248 "add_key"
     [input "const char" "_type", input "const char" "_description",
      input "const void" "_payload", arg "size_t" "plen", arg "key_serial_t" "destringid"],
   call 249 "request_key"
     [input "const char" "_type", input "const char" "_description",
      input "const char" "_callout_info", arg "key_serial_t" "destringid"],
   call 250 "keyctl"
     [arg "int" "cmd", arg "unsigned long" "arg2", arg "unsigned long" "arg3",
      arg "unsigned long" "arg4", arg "unsigned long" "arg5"]]

end SyscallDecode.Prototype
