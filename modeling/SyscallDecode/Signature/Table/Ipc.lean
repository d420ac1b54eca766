/-
Calls on shared memory, semaphores and message queues.
-/
import SyscallDecode.Signature.Prototype

namespace SyscallDecode.Prototype

/-- The calls, by number. -/
def ipcCalls : List Prototype :=
  [call 29 "shmget" [arg "key_t" "key", arg "size_t" "size", arg "int" "flag"],
   call 30 "shmat" [arg "int" "shmid", input "char" "shmaddr", arg "int" "shmflg"],
   call 31 "shmctl" [arg "int" "shmid", arg "int" "cmd", input "struct shmid_ds" "buf"],
   call 64 "semget" [arg "key_t" "key", arg "int" "nsems", arg "int" "semflg"],
   call 65 "semop" [arg "int" "semid", input "struct sembuf" "sops", arg "unsigned" "nsops"],
   call 66 "semctl"
     [arg "int" "semid", arg "int" "semnum", arg "int" "cmd", arg "unsigned long" "arg"],
   call 67 "shmdt" [input "char" "shmaddr"],
   call 68 "msgget" [arg "key_t" "key", arg "int" "msgflg"],
   call 69 "msgsnd"
     [arg "int" "msqid", input "struct msgbuf" "msgp", arg "size_t" "msgsz", arg "int" "msgflg"],
   call 70 "msgrcv"
     [arg "int" "msqid", output "struct msgbuf" "msgp", arg "size_t" "msgsz", arg "long" "msgtyp",
      arg "int" "msgflg"],
   call 71 "msgctl" [arg "int" "msqid", arg "int" "cmd", input "struct msqid_ds" "buf"],
   call 220 "semtimedop"
     [arg "int" "semid", input "struct sembuf" "sops", arg "unsigned" "nsops",
      input "const struct timespec" "timeout"],
   call 240 "mq_open"
     [input "const char" "u_name", arg "int" "oflag", arg "mode_t" "mode",
      input "struct mq_attr" "u_attr"],
   call 241 "mq_unlink" [input "const char" "u_name"],
   call 242 "mq_timedsend"
     [arg "mqd_t" "mqdes", input "const char" "u_msg_ptr", arg "size_t" "msg_len",
      arg "unsigned int" "msg_prio", input "const struct timespec" "u_abs_timeout"],
   call 243 "mq_timedreceive"
     [arg "mqd_t" "mqdes", output "char" "u_msg_ptr", arg "size_t" "msg_len",
      output "unsigned int" "u_msg_prio", input "const struct timespec" "u_abs_timeout"],
   call 244 "mq_notify" [arg "mqd_t" "mqdes", input "const struct sigevent" "u_notification"],
   call 245 "mq_getsetattr"
     [arg "mqd_t" "mqdes", input "const struct mq_attr" "u_mqstat",
      output "struct mq_attr" "u_omqstat"]]

end SyscallDecode.Prototype
