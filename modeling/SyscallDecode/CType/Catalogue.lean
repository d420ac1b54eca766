/-
The types every target knows: the C types of the x86-64 calling convention and the structs that
system calls take. The catalogue is data, so that a statement about all its types can be checked
entry by entry.
-/
import SyscallDecode.CType.Basic
import SyscallDecode.CType.Name

namespace SyscallDecode.CType

/-- The size of an address. -/
def pointerSize : Nat := 8

/-! ## Short forms -/

/-- A signed integer type. -/
def int (name : String) (size : Nat) : CType := .scalar name size .signed

/-- An unsigned integer type. -/
def uint (name : String) (size : Nat) : CType := .scalar name size .unsigned

/-- An address without a type behind it. -/
def voidPointer : CType := .scalar "void*" pointerSize .pointer

/-- Characters in a row. -/
def charArray (length : Nat) : CType :=
  .array ("char[" ++ toString length ++ "]") length (.scalar "char" 1 .char) length

/-! ## Scalars -/

/-- Names of scalar types of one size and kind. -/
def scalarNames : List (Nat × ScalarKind × List String) :=
  [(1, .char, ["char"]),
   (1, .signed, ["signed char"]),
   (1, .unsigned, ["unsigned char", "u8", "__u8", "uint8_t"]),
   (2, .signed, ["short", "s16"]),
   (2, .unsigned, ["unsigned short", "u16", "__u16", "umode_t", "sa_family_t"]),
   (4, .signed,
    ["int", "s32", "pid_t", "key_t", "clockid_t", "timer_t", "mqd_t", "__s32", "key_serial_t"]),
   (4, .unsigned,
    ["unsigned int", "unsigned", "u32", "__u32", "uint32_t", "uid_t", "gid_t", "mode_t",
     "socklen_t", "qid_t"]),
   (8, .signed, ["long", "long long", "s64", "ssize_t", "off_t", "loff_t", "time_t"]),
   (8, .unsigned,
    ["unsigned long", "unsigned long long", "u64", "__u64", "uint64_t", "size_t",
     "aio_context_t", "sigset_t"])]

/-- The scalar type of a name. -/
def findScalar (name : String) : Option CType :=
  (scalarNames.find? fun entry => entry.2.2.contains name).map fun entry =>
    .scalar name entry.1 entry.2.1

/-! ## Structs -/

/-- Members of a time with microseconds. -/
def timevalMembers : List Member :=
  [.mk "tv_sec" 0 (int "time_t" 8), .mk "tv_usec" 8 (int "long" 8)]

/-- Members of a time with nanoseconds. -/
def timespecMembers : List Member :=
  [.mk "tv_sec" 0 (int "time_t" 8), .mk "tv_nsec" 8 (int "long" 8)]

/-- Members of a message header. -/
def msghdrMembers : List Member :=
  [.mk "msg_name" 0 voidPointer, .mk "msg_namelen" 8 (int "int" 4), .mk "msg_iov" 16 voidPointer,
   .mk "msg_iovlen" 24 (uint "size_t" 8), .mk "msg_control" 32 voidPointer,
   .mk "msg_controllen" 40 (uint "size_t" 8), .mk "msg_flags" 48 (uint "unsigned int" 4)]

/-- Members of the description of a system; the last string of the struct is left out. -/
def utsnameMembers : List Member :=
  [.mk "sysname" 0 (charArray 65), .mk "nodename" 65 (charArray 65),
   .mk "release" 130 (charArray 65), .mk "version" 195 (charArray 65),
   .mk "machine" 260 (charArray 65)]

/-- The structs with a known layout: size and members. -/
def structLayouts : List (String × Nat × List Member) :=
  [("struct sockaddr", 16,
    [.mk "sa_family" 0 (uint "sa_family_t" 2), .mk "sa_data" 2 (charArray 14)]),
   ("struct iovec", 16, [.mk "iov_base" 0 voidPointer, .mk "iov_len" 8 (uint "size_t" 8)]),
   ("struct msghdr", 56, msghdrMembers),
   ("struct user_msghdr", 56, msghdrMembers),
   ("struct timespec", 16, timespecMembers),
   ("struct timeval", 16, timevalMembers),
   ("struct timezone", 8,
    [.mk "tz_minuteswest" 0 (int "int" 4), .mk "tz_dsttime" 4 (int "int" 4)]),
   ("struct pollfd", 8,
    [.mk "fd" 0 (int "int" 4), .mk "events" 4 (int "short" 2), .mk "revents" 6 (int "short" 2)]),
   ("struct rlimit", 16,
    [.mk "rlim_cur" 0 (uint "unsigned long" 8), .mk "rlim_max" 8 (uint "unsigned long" 8)]),
   ("struct stat", 144,
    [.mk "st_dev" 0 (uint "unsigned long" 8), .mk "st_ino" 8 (uint "unsigned long" 8),
     .mk "st_nlink" 16 (uint "unsigned long" 8), .mk "st_mode" 24 (uint "unsigned int" 4),
     .mk "st_uid" 28 (uint "unsigned int" 4), .mk "st_gid" 32 (uint "unsigned int" 4),
     .mk "st_size" 48 (int "long" 8)]),
   ("struct old_utsname", 390, utsnameMembers),
   ("struct new_utsname", 390, utsnameMembers),
   ("struct itimerval", 32,
    [.mk "it_interval" 0 (.struct "struct timeval" 16 timevalMembers),
     .mk "it_value" 16 (.struct "struct timeval" 16 timevalMembers)]),
   ("struct itimerspec", 32,
    [.mk "it_interval" 0 (.struct "struct timespec" 16 timespecMembers),
     .mk "it_value" 16 (.struct "struct timespec" 16 timespecMembers)]),
   ("struct utimbuf", 16, [.mk "actime" 0 (int "time_t" 8), .mk "modtime" 8 (int "time_t" 8)]),
   ("struct tms", 32,
    [.mk "tms_utime" 0 (int "long" 8), .mk "tms_stime" 8 (int "long" 8),
     .mk "tms_cutime" 16 (int "long" 8), .mk "tms_cstime" 24 (int "long" 8)]),
   ("struct epoll_event", 12, [.mk "events" 0 (uint "u32" 4), .mk "data" 4 (uint "u64" 8)]),
   ("struct sched_param", 4, [.mk "sched_priority" 0 (int "int" 4)]),
   ("struct sembuf", 6,
    [.mk "sem_num" 0 (uint "unsigned short" 2), .mk "sem_op" 2 (int "short" 2),
     .mk "sem_flg" 4 (int "short" 2)]),
   ("struct msgbuf", 8, [.mk "mtype" 0 (int "long" 8)]),
   ("struct mq_attr", 64,
    [.mk "mq_flags" 0 (int "long" 8), .mk "mq_maxmsg" 8 (int "long" 8),
     .mk "mq_msgsize" 16 (int "long" 8), .mk "mq_curmsgs" 24 (int "long" 8)]),
   ("struct io_event", 32,
    [.mk "data" 0 (uint "u64" 8), .mk "obj" 8 (uint "u64" 8), .mk "res" 16 (int "s64" 8),
     .mk "res2" 24 (int "s64" 8)]),
   ("struct linux_dirent", 18,
    [.mk "d_ino" 0 (uint "unsigned long" 8), .mk "d_off" 8 (uint "unsigned long" 8),
     .mk "d_reclen" 16 (uint "unsigned short" 2)]),
   ("struct linux_dirent64", 19,
    [.mk "d_ino" 0 (uint "u64" 8), .mk "d_off" 8 (int "s64" 8),
     .mk "d_reclen" 16 (uint "unsigned short" 2), .mk "d_type" 18 (uint "unsigned char" 1)]),
   ("stack_t", 24,
    [.mk "ss_sp" 0 voidPointer, .mk "ss_flags" 8 (int "int" 4),
     .mk "ss_size" 16 (uint "size_t" 8)]),
   ("struct __user_cap_header_struct", 8,
    [.mk "version" 0 (uint "u32" 4), .mk "pid" 4 (int "int" 4)]),
   ("struct __user_cap_data_struct", 12,
    [.mk "effective" 0 (uint "u32" 4), .mk "permitted" 4 (uint "u32" 4),
     .mk "inheritable" 8 (uint "u32" 4)])]

/-- The struct of a name. -/
def findStruct (name : String) : Option CType :=
  (structLayouts.lookup name).map fun layout => .struct name layout.1 layout.2

/-! ## Types of which only the size is known -/

/-- Their sizes. -/
def blobSizes : List (String × Nat) :=
  [("fd_set", 128), ("siginfo_t", 128), ("struct siginfo", 128), ("struct sigevent", 64),
   ("struct rusage", 144), ("struct sigaction", 32), ("struct sysinfo", 112),
   ("struct statfs", 120), ("struct ustat", 32), ("struct timex", 208), ("struct shmid_ds", 112),
   ("struct msqid_ds", 120), ("struct iocb", 64), ("struct kexec_segment", 32),
   ("struct robust_list_head", 24), ("struct perf_event_attr", 64), ("struct __sysctl_args", 80)]

/-- The blob of a name. -/
def findBlob (name : String) : Option CType :=
  (blobSizes.lookup name).map fun size => .blob name size

/-! ## The catalogue -/

/-- The type of a name in normal form. A name that ends in a star is an address. -/
def findNormal (name : String) : Option CType :=
  if name.toList.getLast? = some '*' then some (.scalar name pointerSize .pointer)
  else findScalar name <|> findStruct name <|> findBlob name

/-- The type of a name. It carries the normal form of the name. -/
def builtin? (name : String) : Option CType :=
  findNormal (normalizeName name)

end SyscallDecode.CType
