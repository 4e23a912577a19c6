/-!
# What can go wrong outside

Causes of failing calls, each with the wording that messages carry.
-/
namespace AlertRelay

/-- A failing file or process operation. -/
inductive IoFault where
  | notFound | permissionDenied | alreadyExists | notADirectory | isADirectory
  /-- An argument holds the character that ends arguments. -/
  | nulByte
  /-- Any other error, in the words of the system. -/
  | other (wording : String)
  deriving DecidableEq, Repr

def IoFault.message : IoFault → String
  | notFound => "No such file or directory (os error 2)"
  | permissionDenied => "Permission denied (os error 13)"
  | alreadyExists => "File exists (os error 17)"
  | notADirectory => "Not a directory (os error 20)"
  | isADirectory => "Is a directory (os error 21)"
  | nulByte => "nul byte found in provided data"
  | other wording => wording

/-- A save that is broken off. -/
structure SaveFault where
  fault : IoFault
  /-- How many octets of the new record the file holds then; `none` when it was not opened. -/
  written? : Option Nat
  deriving DecidableEq, Repr

/-- How a process ended. -/
inductive ExitStatus where
  | code (n : Nat)
  | signal (n : Nat) (dumped : Bool)
  deriving DecidableEq, Repr

namespace ExitStatus

def isSuccess (s : ExitStatus) : Bool := s == .code 0

/-- The names of the signals from 1 on. -/
def signalNames : List String :=
  ["SIGHUP", "SIGINT", "SIGQUIT", "SIGILL", "SIGTRAP", "SIGABRT", "SIGBUS", "SIGFPE", "SIGKILL",
   "SIGUSR1", "SIGSEGV", "SIGUSR2", "SIGPIPE", "SIGALRM", "SIGTERM", "SIGSTKFLT", "SIGCHLD",
   "SIGCONT", "SIGSTOP", "SIGTSTP", "SIGTTIN", "SIGTTOU", "SIGURG", "SIGXCPU", "SIGXFSZ",
   "SIGVTALRM", "SIGPROF", "SIGWINCH", "SIGIO", "SIGPWR", "SIGSYS"]

def message : ExitStatus → String
  | code n => "exit status: " ++ toString n
  | signal n dumped =>
      "signal: " ++ toString n ++ (match signalNames[n - 1]? with
        | some name => " (" ++ name ++ ")"
        | none => "") ++ (if dumped then " (core dumped)" else "")

end ExitStatus

/-- Why a platform refuses a call. -/
inductive PlatformError where
  | unavailable (what : String)
  | rejected (reason : String)
  | audio (reason : String)
  | io (fault : IoFault)
  deriving DecidableEq, Repr

def PlatformError.message : PlatformError → String
  | unavailable what => what ++ " is not available on this platform"
  | rejected reason => "platform rejected the call: " ++ reason
  | audio reason => "audio error: " ++ reason
  | io fault => "IO error: " ++ fault.message

end AlertRelay
