/-!
Signals: their names, and what they do to a process that has not asked for anything else.
-/

namespace LifecycleHooks.Process.Signal

def hangup : Nat := 1
def interrupt : Nat := 2
def quit : Nat := 3
def kill : Nat := 9
def brokenPipe : Nat := 13
def terminate : Nat := 15
def childEnded : Nat := 17
def resume : Nat := 18
def stop : Nat := 19

def greatest : Nat := 64

def named : List (String × Nat) :=
  [("HUP", 1), ("INT", 2), ("QUIT", 3), ("ILL", 4), ("TRAP", 5), ("ABRT", 6), ("BUS", 7), ("FPE", 8),
    ("KILL", 9), ("USR1", 10), ("SEGV", 11), ("USR2", 12), ("PIPE", 13), ("ALRM", 14), ("TERM", 15),
    ("STKFLT", 16), ("CHLD", 17), ("CONT", 18), ("STOP", 19), ("TSTP", 20), ("TTIN", 21),
    ("TTOU", 22), ("URG", 23), ("XCPU", 24), ("XFSZ", 25), ("VTALRM", 26), ("PROF", 27),
    ("WINCH", 28), ("IO", 29), ("PWR", 30), ("SYS", 31)]

def isHarmless (signal : Nat) : Bool := [0, 17, 18, 23, 28].contains signal

def isStopping (signal : Nat) : Bool := [19, 20, 21, 22].contains signal

end LifecycleHooks.Process.Signal
