import CellRunner.Text.Quoted

/-!
# Failures of the operating system
-/

set_option autoImplicit false

namespace CellRunner

/-- Why the system refused a request. -/
inductive SystemError where
  | notPermitted
  | noEntry
  | noProcess
  | interrupted
  | noDevice
  | tooManyArguments
  | notExecutable
  | badDescriptor
  | noChild
  | accessDenied
  | busy
  | exists
  | crossDevice
  | notDirectory
  | isDirectory
  | invalid
  | tooManyFiles
  | notTerminal
  | textBusy
  | noSpace
  | illegalSeek
  | readOnly
  | brokenPipe
  | nameTooLong
  | notEmpty
  | tooManyLinks
  deriving DecidableEq, Repr

namespace SystemError

def number : SystemError → Nat
  | .notPermitted => 1
  | .noEntry => 2
  | .noProcess => 3
  | .interrupted => 4
  | .noDevice => 6
  | .tooManyArguments => 7
  | .notExecutable => 8
  | .badDescriptor => 9
  | .noChild => 10
  | .accessDenied => 13
  | .busy => 16
  | .exists => 17
  | .crossDevice => 18
  | .notDirectory => 20
  | .isDirectory => 21
  | .invalid => 22
  | .tooManyFiles => 24
  | .notTerminal => 25
  | .textBusy => 26
  | .noSpace => 28
  | .illegalSeek => 29
  | .readOnly => 30
  | .brokenPipe => 32
  | .nameTooLong => 36
  | .notEmpty => 39
  | .tooManyLinks => 40

def text : SystemError → String
  | .notPermitted => "Operation not permitted"
  | .noEntry => "No such file or directory"
  | .noProcess => "No such process"
  | .interrupted => "Interrupted system call"
  | .noDevice => "No such device or address"
  | .tooManyArguments => "Argument list too long"
  | .notExecutable => "Exec format error"
  | .badDescriptor => "Bad file descriptor"
  | .noChild => "No child processes"
  | .accessDenied => "Permission denied"
  | .busy => "Device or resource busy"
  | .exists => "File exists"
  | .crossDevice => "Invalid cross-device link"
  | .notDirectory => "Not a directory"
  | .isDirectory => "Is a directory"
  | .invalid => "Invalid argument"
  | .tooManyFiles => "Too many open files"
  | .notTerminal => "Inappropriate ioctl for device"
  | .textBusy => "Text file busy"
  | .noSpace => "No space left on device"
  | .illegalSeek => "Illegal seek"
  | .readOnly => "Read-only file system"
  | .brokenPipe => "Broken pipe"
  | .nameTooLong => "File name too long"
  | .notEmpty => "Directory not empty"
  | .tooManyLinks => "Too many levels of symbolic links"

def message (e : SystemError) : String := e.text ++ " (os error " ++ toString e.number ++ ")"

end SystemError

/-- Why input or output failed. -/
inductive IoFault where
  | system (error : SystemError)
  /-- a program name or an argument holds a NUL -/
  | nulInData
  /-- a file name holds a NUL -/
  | nulInName
  | notUtf8
  /-- the input of a process is written after it was closed -/
  | inputClosed
  /-- a failure at a temporary file of this path -/
  | atPath (fault : IoFault) (path : String)
  deriving DecidableEq, Repr

def IoFault.message : IoFault → String
  | .system e => e.message
  | .nulInData => "nul byte found in provided data"
  | .nulInName => "file name contained an unexpected NUL byte"
  | .notUtf8 => "stream did not contain valid UTF-8"
  | .inputClosed => "standard input already closed"
  | .atPath f path => f.message ++ " at path " ++ Text.quoted path

/-- Whether the file was not there. -/
def IoFault.isAbsence : IoFault → Bool
  | .system .noEntry => true
  | .atPath f _ => f.isAbsence
  | _ => false

end CellRunner
