/-
Calls on files: descriptors, paths, directories, attributes, watches, events and asynchronous transfers.
-/
import SyscallDecode.Signature.Prototype

namespace SyscallDecode.Prototype

/-- The calls, by number. -/
def fileCalls : List Prototype :=
  [call 0 "read" [arg "unsigned int" "fd", output "char" "buf", arg "size_t" "count"],
   call 1 "write" [arg "unsigned int" "fd", input "const char" "buf", arg "size_t" "count"],
   call 2 "open" [input "const char" "filename", arg "int" "flags", arg "int" "mode"],
   call 3 "close" [arg "unsigned int" "fd"],
   call 4 "stat" [input "char" "filename", output "struct stat" "statbuf"],
   call 5 "fstat" [arg "unsigned int" "fd", output "struct stat" "statbuf"],
   call 6 "lstat" [input "char" "filename", output "struct stat" "statbuf"],
   call 7 "poll" [input "struct pollfd" "ufds", arg "unsigned int" "nfds", arg "long" "timeout"],
   call 8 "lseek" [arg "unsigned int" "fd", arg "off_t" "offset", arg "unsigned int" "origin"],
   call 16 "ioctl" [arg "unsigned int" "fd", arg "unsigned int" "cmd", arg "unsigned long" "arg"],
   call 17 "pread64"
     [arg "unsigned int" "fd", output "char" "buf", arg "size_t" "count", arg "loff_t" "pos"],
   call 18 "pwrite64"
     [arg "unsigned int" "fd", input "const char" "buf", arg "size_t" "count",
      arg "loff_t" "pos"],
   call 19 "readv"
     [arg "unsigned long" "fd", input "const struct iovec" "vec", arg "unsigned long" "vlen"],
   call 20 "writev"
     [arg "unsigned long" "fd", input "const struct iovec" "vec", arg "unsigned long" "vlen"],
   call 21 "access" [input "const char" "filename", arg "int" "mode"],
   call 22 "pipe" [output "int" "fildes"],
   call 23 "select"
     [arg "int" "n", input "fd_set" "inp", input "fd_set" "outp", input "fd_set" "exp",
      input "struct timeval" "tvp"],
   call 32 "dup" [arg "unsigned int" "fildes"],
   call 33 "dup2" [arg "unsigned int" "oldfd", arg "unsigned int" "newfd"],
   call 40 "sendfile"
     [arg "int" "out_fd", arg "int" "in_fd", input "off_t" "offset", arg "size_t" "count"],
   call 72 "fcntl" [arg "unsigned int" "fd", arg "unsigned int" "cmd", arg "unsigned long" "arg"],
   call 73 "flock" [arg "unsigned int" "fd", arg "unsigned int" "cmd"],
   call 74 "fsync" [arg "unsigned int" "fd"],
   call 75 "fdatasync" [arg "unsigned int" "fd"],
   call 76 "truncate" [input "const char" "path", arg "long" "length"],
   call 77 "ftruncate" [arg "unsigned int" "fd", arg "unsigned long" "length"],
   call 78 "getdents"
     [arg "unsigned int" "fd", output "struct linux_dirent" "dirent", arg "unsigned int" "count"],
   call 79 "getcwd" [output "char" "buf", arg "unsigned long" "size"],
   call 80 "chdir" [input "const char" "filename"],
   call 81 "fchdir" [arg "unsigned int" "fd"],
   call 82 "rename" [input "const char" "oldname", input "const char" "newname"],
   call 83 "mkdir" [input "const char" "pathname", arg "int" "mode"],
   call 84 "rmdir" [input "const char" "pathname"],
   call 85 "creat" [input "const char" "pathname", arg "int" "mode"],
   call 86 "link" [input "const char" "oldname", input "const char" "newname"],
   call 87 "unlink" [input "const char" "pathname"],
   call 88 "symlink" [input "const char" "old", input "const char" "new"],
   call 89 "readlink" [input "const char" "path", output "char" "buf", arg "int" "bufsiz"],
   call 90 "chmod" [input "const char" "filename", arg "mode_t" "mode"],
   call 91 "fchmod" [arg "unsigned int" "fd", arg "mode_t" "mode"],
   call 92 "chown" [input "const char" "filename", arg "uid_t" "user", arg "gid_t" "group"],
   call 93 "fchown" [arg "unsigned int" "fd", arg "uid_t" "user", arg "gid_t" "group"],
   call 94 "lchown" [input "const char" "filename", arg "uid_t" "user", arg "gid_t" "group"],
   call 95 "umask" [arg "int" "mask"],
   call 132 "utime" [input "char" "filename", input "struct utimbuf" "times"],
   call 133 "mknod" [input "const char" "filename", arg "int" "mode", arg "unsigned" "dev"],
   call 136 "ustat" [arg "unsigned" "dev", output "struct ustat" "ubuf"],
   call 137 "statfs" [input "const char" "path", output "struct statfs" "buf"],
   call 138 "fstatfs" [arg "unsigned int" "fd", output "struct statfs" "buf"],
   call 155 "pivot_root" [input "const char" "new_root", input "const char" "put_old"],
   call 161 "chroot" [input "const char" "filename"],
   call 162 "sync" [],
   call 165 "mount"
     [input "char" "dev_name", input "char" "dir_name", input "char" "type",
      arg "unsigned long" "flags", input "void" "data"],
   call 166 "umount2" [input "char" "name", arg "int" "flags"],
   call 167 "swapon" [input "const char" "specialfile", arg "int" "swap_flags"],
   call 168 "swapoff" [input "const char" "specialfile"],
   call 179 "quotactl"
     [arg "unsigned int" "cmd", input "const char" "special", arg "qid_t" "id",
      input "void" "addr"],
   call 180 "nfsservctl" [arg "int" "cmd", input "struct nfsctl_arg" "arg", output "void" "res"],
   call 187 "readahead" [arg "int" "fd", arg "loff_t" "offset", arg "size_t" "count"],
   call 188 "setxattr"
     [input "const char" "path", input "const char" "name", input "const void" "value",
      arg "size_t" "size", arg "int" "flags"],
   call 189 "lsetxattr"
     [input "const char" "path", input "const char" "name", input "const void" "value",
      arg "size_t" "size", arg "int" "flags"],
   call 190 "fsetxattr"
     [arg "int" "fd", input "const char" "name", input "const void" "value", arg "size_t" "size",
      arg "int" "flags"],
   call 191 "getxattr"
     [input "const char" "path", input "const char" "name", output "void" "value",
      arg "size_t" "size"],
   call 192 "lgetxattr"
     [input "const char" "path", input "const char" "name", output "void" "value",
      arg "size_t" "size"],
   call 193 "fgetxattr"
     [arg "int" "fd", input "const char" "name", output "void" "value", arg "size_t" "size"],
   call 194 "listxattr" [input "const char" "path", output "char" "list", arg "size_t" "size"],
   call 195 "llistxattr" [input "const char" "path", output "char" "list", arg "size_t" "size"],
   call 196 "flistxattr" [arg "int" "fd", output "char" "list", arg "size_t" "size"],
   call 197 "removexattr" [input "const char" "path", input "const char" "name"],
   call 198 "lremovexattr" [input "const char" "path", input "const char" "name"],
   call 199 "fremovexattr" [arg "int" "fd", input "const char" "name"],
   call 206 "io_setup" [arg "unsigned" "nr_reqs", output "aio_context_t" "ctx"],
   call 207 "io_destroy" [arg "aio_context_t" "ctx"],
   call 208 "io_getevents"
     [arg "aio_context_t" "ctx_id", arg "long" "min_nr", arg "long" "nr",
      output "struct io_event" "events", input "struct timespec" "timeout"],
   call 209 "io_submit"
     [arg "aio_context_t" "ctx_id", arg "long" "nr", input "struct iocb __user *" "iocbpp"],
   call 210 "io_cancel"
     [arg "aio_context_t" "ctx_id", input "struct iocb" "iocb",
      output "struct io_event" "result"],
   call 212 "lookup_dcookie" [arg "u64" "cookie64", output "char" "buf", arg "size_t" "len"],
   call 213 "epoll_create" [arg "int" "size"],
   call 217 "getdents64"
     [arg "unsigned int" "fd", output "struct linux_dirent64" "dirent",
      arg "unsigned int" "count"],
   call 221 "fadvise64"
     [arg "int" "fd", arg "loff_t" "offset", arg "size_t" "len", arg "int" "advice"],
   call 232 "epoll_wait"
     [arg "int" "epfd", output "struct epoll_event" "events", arg "int" "maxevents",
      arg "int" "timeout"],
   call 233 "epoll_ctl"
     [arg "int" "epfd", arg "int" "op", arg "int" "fd", input "struct epoll_event" "event"],
   call 235 "utimes" [input "char" "filename", input "struct timeval" "utimes"],
   call 253 "inotify_init" [],
   call 254 "inotify_add_watch" [arg "int" "fd", input "const char" "path", arg "u32" "mask"],
   call 255 "inotify_rm_watch" [arg "int" "fd", arg "__s32" "wd"],
   call 257 "openat"
     [arg "int" "dfd", input "const char" "filename", arg "int" "flags", arg "int" "mode"],
   call 258 "mkdirat" [arg "int" "dfd", input "const char" "pathname", arg "int" "mode"],
   call 259 "mknodat"
     [arg "int" "dfd", input "const char" "filename", arg "int" "mode", arg "unsigned" "dev"],
   call 260 "fchownat"
     [arg "int" "dfd", input "const char" "filename", arg "uid_t" "user", arg "gid_t" "group",
      arg "int" "flag"],
   call 261 "futimesat"
     [arg "int" "dfd", input "char" "filename", input "struct timeval" "utimes"],
   call 262 "newfstatat"
     [arg "int" "dfd", input "char" "filename", output "struct stat" "statbuf", arg "int" "flag"],
   call 263 "unlinkat" [arg "int" "dfd", input "const char" "pathname", arg "int" "flag"],
   call 264 "renameat"
     [arg "int" "olddfd", input "const char" "oldname", arg "int" "newdfd",
      input "const char" "newname"],
   call 265 "linkat"
     [arg "int" "olddfd", input "const char" "oldname", arg "int" "newdfd",
      input "const char" "newname", arg "int" "flags"],
   call 266 "symlinkat"
     [input "const char" "oldname", arg "int" "newdfd", input "const char" "newname"],
   call 267 "readlinkat"
     [arg "int" "dfd", input "const char" "path", output "char" "buf", arg "int" "bufsiz"],
   call 268 "fchmodat" [arg "int" "dfd", input "const char" "filename", arg "mode_t" "mode"],
   call 269 "faccessat" [arg "int" "dfd", input "const char" "filename", arg "int" "mode"],
   call 270 "pselect6"
     [arg "int" "n", input "fd_set" "inp", input "fd_set" "outp", input "fd_set" "exp",
      input "struct timespec" "tsp", input "void" "sig"],
   call 271 "ppoll"
     [input "struct pollfd" "ufds", arg "unsigned int" "nfds", input "struct timespec" "tsp",
      input "const sigset_t" "sigmask", arg "size_t" "sigsetsize"],
   call 275 "splice"
     [arg "int" "fd_in", input "loff_t" "off_in", arg "int" "fd_out", input "loff_t" "off_out",
      arg "size_t" "len", arg "unsigned int" "flags"],
   call 276 "tee"
     [arg "int" "fdin", arg "int" "fdout", arg "size_t" "len", arg "unsigned int" "flags"],
   call 277 "sync_file_range"
     [arg "int" "fd", arg "loff_t" "offset", arg "loff_t" "nbytes", arg "unsigned int" "flags"],
   call 278 "vmsplice"
     [arg "int" "fd", input "const struct iovec" "iov", arg "unsigned long" "nr_segs",
      arg "unsigned int" "flags"],
   call 280 "utimensat"
     [arg "int" "dfd", input "char" "filename", input "struct timespec" "utimes",
      arg "int" "flags"],
   call 281 "epoll_pwait"
     [arg "int" "epfd", output "struct epoll_event" "events", arg "int" "maxevents",
      arg "int" "timeout", input "const sigset_t" "sigmask", arg "size_t" "sigsetsize"],
   call 282 "signalfd" [arg "int" "ufd", input "sigset_t" "user_mask", arg "size_t" "sizemask"],
   call 283 "timerfd_create" [arg "int" "clockid", arg "int" "flags"],
   call 284 "eventfd" [arg "unsigned int" "count"],
   call 285 "fallocate"
     [arg "int" "fd", arg "int" "mode", arg "loff_t" "offset", arg "loff_t" "len"],
   call 286 "timerfd_settime"
     [arg "int" "ufd", arg "int" "flags", input "const struct itimerspec" "utmr",
      output "struct itimerspec" "otmr"],
   call 287 "timerfd_gettime" [arg "int" "ufd", output "struct itimerspec" "otmr"],
   call 289 "signalfd4"
     [arg "int" "ufd", input "sigset_t" "user_mask", arg "size_t" "sizemask", arg "int" "flags"],
   call 290 "eventfd2" [arg "unsigned int" "count", arg "int" "flags"],
   call 291 "epoll_create1" [arg "int" "flags"],
   call 292 "dup3" [arg "unsigned int" "oldfd", arg "unsigned int" "newfd", arg "int" "flags"],
   call 293 "pipe2" [output "int" "fildes", arg "int" "flags"],
   call 294 "inotify_init1" [arg "int" "flags"],
   call 295 "preadv"
     [arg "unsigned long" "fd", input "const struct iovec" "vec", arg "unsigned long" "vlen",
      arg "unsigned long" "pos_l", arg "unsigned long" "pos_h"],
   call 296 "pwritev"
     [arg "unsigned long" "fd", input "const struct iovec" "vec", arg "unsigned long" "vlen",
      arg "unsigned long" "pos_l", arg "unsigned long" "pos_h"]]

end SyscallDecode.Prototype
