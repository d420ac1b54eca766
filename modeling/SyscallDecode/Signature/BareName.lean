/-
Calls of which only the number and the name are known: some were given up before they were ever
implemented, the others are newer than the prototypes.
-/

namespace SyscallDecode

/-- Names of calls without a prototype. -/
def bareCallNames : List (Nat × String) :=
  [(174, "create_module"), (177, "get_kernel_syms"), (178, "query_module"), (181, "getpmsg"),
   (182, "putpmsg"), (183, "afs_syscall"), (184, "tuxcall"), (185, "security"),
   (205, "set_thread_area"), (211, "get_thread_area"), (214, "epoll_ctl_old"),
   (215, "epoll_wait_old"), (236, "vserver"), (299, "recvmmsg"), (300, "fanotify_init"),
   (301, "fanotify_mark"), (302, "prlimit64"), (303, "name_to_handle_at"),
   (304, "open_by_handle_at"), (305, "clock_adjtime"), (306, "syncfs"), (307, "sendmmsg"),
   (308, "setns"), (309, "getcpu"), (310, "process_vm_readv"), (311, "process_vm_writev"),
   (312, "kcmp"), (313, "finit_module"), (314, "sched_setattr"), (315, "sched_getattr"),
   (316, "renameat2"), (317, "seccomp"), (318, "getrandom"), (319, "memfd_create"),
   (320, "kexec_file_load"), (321, "bpf"), (322, "execveat"), (323, "userfaultfd"),
   (324, "membarrier"), (325, "mlock2"), (326, "copy_file_range"), (327, "preadv2"),
   (328, "pwritev2"), (329, "pkey_mprotect"), (330, "pkey_alloc"), (331, "pkey_free"),
   (332, "statx"), (333, "io_pgetevents"), (334, "rseq"), (424, "pidfd_send_signal"),
   (425, "io_uring_setup"), (426, "io_uring_enter"), (427, "io_uring_register"),
   (428, "open_tree"), (429, "move_mount"), (430, "fsopen"), (431, "fsconfig"), (432, "fsmount"),
   (433, "fspick"), (434, "pidfd_open"), (435, "clone3"), (436, "close_range"), (437, "openat2"),
   (438, "pidfd_getfd"), (439, "faccessat2"), (440, "process_madvise"), (441, "epoll_pwait2"),
   (442, "mount_setattr"), (443, "quotactl_fd"), (444, "landlock_create_ruleset"),
   (445, "landlock_add_rule"), (446, "landlock_restrict_self"), (447, "memfd_secret"),
   (448, "process_mrelease"), (449, "futex_waitv"), (450, "set_mempolicy_home_node"),
   (451, "cachestat"), (452, "fchmodat2"), (453, "map_shadow_stack"), (454, "futex_wake"),
   (455, "futex_wait"), (456, "futex_requeue"), (457, "statmount"), (458, "listmount"),
   (459, "lsm_get_self_attr"), (460, "lsm_set_self_attr"), (461, "lsm_list_modules")]

/-- The name of a call without a prototype. -/
def bareCallName (number : UInt64) : String :=
  (bareCallNames.lookup number.toNat).getD "unknown"

end SyscallDecode
