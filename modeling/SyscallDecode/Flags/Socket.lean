/-
The words of the socket calls: address families, socket types, protocols, and flags of sockets
and messages.
-/
import SyscallDecode.Flags.Bitmask

namespace SyscallDecode.Flags

/-! ## Families -/

/-- Address families. -/
def familyNames : List (UInt32 × String) :=
  [(0, "AF_UNSPEC"), (1, "AF_UNIX"), (2, "AF_INET"), (3, "AF_AX25"), (4, "AF_IPX"),
   (5, "AF_APPLETALK"), (9, "AF_X25"), (10, "AF_INET6"), (15, "AF_KEY"), (16, "AF_NETLINK"),
   (17, "AF_PACKET"), (29, "AF_CAN"), (31, "AF_BLUETOOTH"), (38, "AF_ALG"), (40, "AF_VSOCK")]

/-- An address family in words. -/
def family (value : UInt64) : String :=
  valueText familyNames value

/-! ## Types -/

/-- The bits of a socket type that hold the type proper; the others are creation flags. -/
def typeBits : UInt64 := 0xF

/-- Socket types. -/
def socketTypeNames : List (UInt32 × String) :=
  [(1, "SOCK_STREAM"), (2, "SOCK_DGRAM"), (3, "SOCK_RAW"), (4, "SOCK_RDM"),
   (5, "SOCK_SEQPACKET"), (6, "SOCK_DCCP"), (10, "SOCK_PACKET")]

/-- Creation flags of a socket. -/
def creationNames : BitNames :=
  [(0x800, "SOCK_NONBLOCK"), (0x80000, "SOCK_CLOEXEC")]

/-- A socket type in words. -/
def socketType (value : UInt64) : String :=
  match socketTypeNames.lookup (value &&& typeBits).toUInt32 with
  | some base => "|".intercalate (base :: bitTexts creationNames (value &&& ~~~typeBits))
  | none => unrecognized value

/-! ## Protocols -/

/-- Internet protocols. -/
def protocolNames : List (UInt32 × String) :=
  [(0, "default"), (1, "IPPROTO_ICMP"), (2, "IPPROTO_IGMP"), (6, "IPPROTO_TCP"),
   (17, "IPPROTO_UDP"), (41, "IPPROTO_IPV6"), (58, "IPPROTO_ICMPV6"), (132, "IPPROTO_SCTP"),
   (136, "IPPROTO_UDPLITE"), (255, "IPPROTO_RAW")]

/-- A protocol in words. -/
def protocol (value : UInt64) : String :=
  valueText protocolNames value

/-! ## Flags -/

/-- Flags the kernel keeps with a socket. -/
def socketStateNames : BitNames :=
  [(0x1, "SOCK_ASYNC_NOSPACE"), (0x2, "SOCK_ASYNC_WAITDATA"), (0x4, "SOCK_NOSPACE"),
   (0x8, "SOCK_PASSCRED"), (0x10, "SOCK_PASSSEC")]

/-- The flags of a socket in words. -/
def socketState (value : UInt64) : String :=
  bitText "0" socketStateNames value

/-- Flags of sending and receiving. -/
def messageFlagNames : BitNames :=
  [(0x1, "MSG_OOB"), (0x2, "MSG_PEEK"), (0x4, "MSG_DONTROUTE"), (0x8, "MSG_CTRUNC"),
   (0x20, "MSG_TRUNC"), (0x40, "MSG_DONTWAIT"), (0x80, "MSG_EOR"), (0x100, "MSG_WAITALL"),
   (0x4000, "MSG_NOSIGNAL"), (0x8000, "MSG_MORE"), (0x10000, "MSG_WAITFORONE"),
   (0x40000000, "MSG_CMSG_CLOEXEC")]

/-- The flags of a message in words. -/
def messageFlags (value : UInt64) : String :=
  bitText "0" messageFlagNames value

end SyscallDecode.Flags
