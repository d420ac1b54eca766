/-
Calls on the address space: mappings, protection, residency and placement.
-/
import SyscallDecode.Signature.Prototype

namespace SyscallDecode.Prototype

/-- The calls, by number. -/
def memoryCalls : List Prototype :=
  [call 9 "mmap"
     [arg "unsigned long" "addr", arg "unsigned long" "len", arg "unsigned long" "prot",
      arg "unsigned long" "flags", arg "unsigned long" "fd", arg "unsigned long" "pgoff"],
   call 10 "mprotect"
     [arg "unsigned long" "start", arg "size_t" "len", arg "unsigned long" "prot"],
   call 11 "munmap" [arg "unsigned long" "addr", arg "size_t" "len"],
   callReturning "unsigned long" 12 "brk" [arg "unsigned long" "brk"],
   callReturning "unsigned long" 25 "mremap"
     [arg "unsigned long" "addr", arg "unsigned long" "old_len", arg "unsigned long" "new_len",
      arg "unsigned long" "flags", arg "unsigned long" "new_addr"],
   call 26 "msync" [arg "unsigned long" "start", arg "size_t" "len", arg "int" "flags"],
   call 27 "mincore"
     [arg "unsigned long" "start", arg "size_t" "len", output "unsigned char" "vec"],
   call 28 "madvise" [arg "unsigned long" "start", arg "size_t" "len_in", arg "int" "behavior"],
   call 149 "mlock" [arg "unsigned long" "start", arg "size_t" "len"],
   call 150 "munlock" [arg "unsigned long" "start", arg "size_t" "len"],
   call 151 "mlockall" [arg "int" "flags"],
   call 152 "munlockall" [],
   call 154 "modify_ldt" [arg "int" "func", input "void" "ptr", arg "unsigned long" "bytecount"],
   call 216 "remap_file_pages"
     [arg "unsigned long" "start", arg "unsigned long" "size", arg "unsigned long" "prot",
      arg "unsigned long" "pgoff", arg "unsigned long" "flags"],
   call 237 "mbind"
     [arg "unsigned long" "start", arg "unsigned long" "len", arg "unsigned long" "mode",
      input "unsigned long" "nmask", arg "unsigned long" "maxnode", arg "unsigned" "flags"],
   call 238 "set_mempolicy"
     [arg "int" "mode", input "unsigned long" "nmask", arg "unsigned long" "maxnode"],
   call 239 "get_mempolicy"
     [output "int" "policy", output "unsigned long" "nmask", arg "unsigned long" "maxnode",
      arg "unsigned long" "addr", arg "unsigned long" "flags"],
   call 256 "migrate_pages"
     [arg "pid_t" "pid", arg "unsigned long" "maxnode", input "const unsigned long" "from",
      input "const unsigned long" "to"],
   call 279 "move_pages"
     [arg "pid_t" "pid", arg "unsigned long" "nr_pages", input "const void __user *" "pages",
      input "const int" "nodes", output "int" "status", arg "int" "flags"]]

end SyscallDecode.Prototype
