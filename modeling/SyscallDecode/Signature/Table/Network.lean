/-
Calls on sockets.
-/
import SyscallDecode.Signature.Prototype

namespace SyscallDecode.Prototype

/-- The calls, by number. -/
def networkCalls : List Prototype :=
  [call 41 "socket" [arg "int" "family", arg "int" "type", arg "int" "protocol"],
   call 42 "connect" [arg "int" "fd", input "struct sockaddr" "uservaddr", arg "int" "addrlen"],
   call 43 "accept"
     [arg "int" "fd", output "struct sockaddr" "upeer_sockaddr", output "int" "upeer_addrlen"],
   call 44 "sendto"
     [arg "int" "fd", input "void" "buff", arg "size_t" "len", arg "unsigned" "flags",
      input "struct sockaddr" "addr", arg "int" "addr_len"],
   call 45 "recvfrom"
     [arg "int" "fd", output "void" "ubuf", arg "size_t" "size", arg "unsigned" "flags",
      output "struct sockaddr" "addr", output "int" "addr_len"],
   call 46 "sendmsg" [arg "int" "fd", input "struct msghdr" "msg", arg "unsigned" "flags"],
   call 47 "recvmsg" [arg "int" "fd", output "struct msghdr" "msg", arg "unsigned int" "flags"],
   call 48 "shutdown" [arg "int" "fd", arg "int" "how"],
   call 49 "bind" [arg "int" "fd", input "struct sockaddr" "umyaddr", arg "int" "addrlen"],
   call 50 "listen" [arg "int" "fd", arg "int" "backlog"],
   call 51 "getsockname"
     [arg "int" "fd", output "struct sockaddr" "usockaddr", output "int" "usockaddr_len"],
   call 52 "getpeername"
     [arg "int" "fd", output "struct sockaddr" "usockaddr", output "int" "usockaddr_len"],
   call 53 "socketpair"
     [arg "int" "family", arg "int" "type", arg "int" "protocol", output "int" "usockvec"],
   call 54 "setsockopt"
     [arg "int" "fd", arg "int" "level", arg "int" "optname", input "char" "optval",
      arg "int" "optlen"],
   call 55 "getsockopt"
     [arg "int" "fd", arg "int" "level", arg "int" "optname", output "char" "optval",
      output "int" "optlen"],
   call 288 "accept4"
     [arg "int" "fd", output "struct sockaddr" "upeer_sockaddr", output "int" "upeer_addrlen",
      arg "int" "flags"]]

end SyscallDecode.Prototype
