import ContentGateway.Value

/-!
# Conditions and their families

Every condition has a label, which notices and failure details show. Conditions fall into families
that decide how an attempt fails: those of the system, to which an unreachable host and a lost
connection belong, and those of a reply that breaks the protocol. A lost connection belongs to both
and is treated as one of the system.

A system condition reported with two to five arguments has a number, the first, and a text, the
second. The third says what it is about, and the fifth what else; the fourth says nothing. Reported
without a kind of its own, it takes the kind that its number says.
-/

namespace ContentGateway

def FailureKind.name : FailureKind → String
  | .auth => "auth"
  | .notFound => "not_found"
  | .validation => "validation"
  | .rateLimit => "rate_limit"
  | .serverRetryable => "server_retryable"
  | .unclassified => "unclassified"
  | .network => "network"

def ProblemKind.label : ProblemKind → String
  | .general => "CLIError"
  | .validation => "ValidationError"
  | .configuration => "ConfigError"

def Misuse.label : Misuse → String
  | .wrongType => "TypeError"
  | .noSuchMember => "AttributeError"
  | .missingKey => "KeyError"
  | .tooLarge => "OverflowError"
  | .tooLong => "MemoryError"

namespace Condition

def label : Condition → String
  | .unspecified => "Exception"
  | .badValue => "ValueError"
  | .failedRun => "RuntimeError"
  | .missingKey => "KeyError"
  | .interrupted => "KeyboardInterrupt"
  | .systemCall => "OSError"
  | .timedOut => "TimeoutError"
  | .connectionRefused => "ConnectionRefusedError"
  | .connectionReset => "ConnectionResetError"
  | .connectionAborted => "ConnectionAbortedError"
  | .brokenPipe => "BrokenPipeError"
  | .nameLookup => "gaierror"
  | .unreachable => "URLError"
  | .disconnected => "RemoteDisconnected"
  | .protocolFailure => "HTTPException"
  | .shortRead => "IncompleteRead"
  | .badStatusLine => "BadStatusLine"
  | .invalidAddress => "InvalidURL"
  | .noSuchFile => "FileNotFoundError"
  | .notPermitted => "PermissionError"
  | .callInterrupted => "InterruptedError"
  | .noSuchProcess => "ProcessLookupError"
  | .noChildProcess => "ChildProcessError"
  | .wouldBlock => "BlockingIOError"
  | .fileExists => "FileExistsError"
  | .notDirectory => "NotADirectoryError"
  | .isDirectory => "IsADirectoryError"

/-- Whether a condition breaks the protocol of a reply, and nothing worse. -/
def isProtocol : Condition → Bool
  | .protocolFailure | .shortRead | .badStatusLine | .invalidAddress => true
  | _ => false

/-- Whether a condition belongs to the system family. -/
def isSystem : Condition → Bool
  | .unspecified | .badValue | .failedRun | .missingKey | .interrupted => false
  | c => !c.isProtocol

/-- Whether a condition can be reported with a number and a text: the system family but for an
unreachable host, which only says why. -/
def isNumbered (c : Condition) : Bool := c.isSystem && c ≠ .unreachable

/-- Whether a condition has a number and a text when it is reported with two arguments and so many
more. -/
def hasNumber (c : Condition) (more : Nat) : Bool := c.isNumbered && more ≤ 3

/-- Whether a condition is about a value. It is not about null; and a whole number that comes with a
condition of waiting counts what was done before. -/
def isAbout (c : Condition) : Value → Bool
  | .null => false
  | .int _ | .bool _ => c ≠ .wouldBlock
  | _ => true

/-- The kind of system condition that a number says. -/
def ofNumber : Int → Condition
  | 1 | 13 => .notPermitted
  | 2 => .noSuchFile
  | 3 => .noSuchProcess
  | 4 => .callInterrupted
  | 10 => .noChildProcess
  | 11 | 114 | 115 => .wouldBlock
  | 17 => .fileExists
  | 20 => .notDirectory
  | 21 => .isDirectory
  | 32 | 108 => .brokenPipe
  | 103 => .connectionAborted
  | 104 => .connectionReset
  | 110 => .timedOut
  | 111 => .connectionRefused
  | _ => .systemCall

end Condition

end ContentGateway
