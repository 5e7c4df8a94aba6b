/-!
# Errors of the operating system

An error is known by its number, by its kind alone, or by a description of its own.
-/

namespace DesktopRefresh

/-- The numbered errors that files and processes give. -/
inductive Errno where
  | notPermitted | noEntry | noProcess | inputOutput | argumentsTooLong | execFormat | badDescriptor | noChild | again
  | noMemory | accessDenied | busy | entryExists | crossDevice | notDirectory | isDirectory | invalid | noTerminal
  | textBusy | noSpace | illegalSeek | brokenPipe | nameTooLong | notEmpty | linkLoop
  deriving DecidableEq, Repr

namespace Errno

def number : Errno → Nat
  | notPermitted => 1
  | noEntry => 2
  | noProcess => 3
  | inputOutput => 5
  | argumentsTooLong => 7
  | execFormat => 8
  | badDescriptor => 9
  | noChild => 10
  | again => 11
  | noMemory => 12
  | accessDenied => 13
  | busy => 16
  | entryExists => 17
  | crossDevice => 18
  | notDirectory => 20
  | isDirectory => 21
  | invalid => 22
  | noTerminal => 25
  | textBusy => 26
  | noSpace => 28
  | illegalSeek => 29
  | brokenPipe => 32
  | nameTooLong => 36
  | notEmpty => 39
  | linkLoop => 40

def all : List Errno :=
  [notPermitted, noEntry, noProcess, inputOutput, argumentsTooLong, execFormat, badDescriptor, noChild, again, noMemory,
    accessDenied, busy, entryExists, crossDevice, notDirectory, isDirectory, invalid, noTerminal, textBusy, noSpace,
    illegalSeek, brokenPipe, nameTooLong, notEmpty, linkLoop]

def ofNumber? (n : Nat) : Option Errno := all.find? (·.number == n)

def text : Errno → String
  | notPermitted => "Operation not permitted"
  | noEntry => "No such file or directory"
  | noProcess => "No such process"
  | inputOutput => "Input/output error"
  | argumentsTooLong => "Argument list too long"
  | execFormat => "Exec format error"
  | badDescriptor => "Bad file descriptor"
  | noChild => "No child processes"
  | again => "Resource temporarily unavailable"
  | noMemory => "Cannot allocate memory"
  | accessDenied => "Permission denied"
  | busy => "Device or resource busy"
  | entryExists => "File exists"
  | crossDevice => "Invalid cross-device link"
  | notDirectory => "Not a directory"
  | isDirectory => "Is a directory"
  | invalid => "Invalid argument"
  | noTerminal => "Inappropriate ioctl for device"
  | textBusy => "Text file busy"
  | noSpace => "No space left on device"
  | illegalSeek => "Illegal seek"
  | brokenPipe => "Broken pipe"
  | nameTooLong => "File name too long"
  | notEmpty => "Directory not empty"
  | linkLoop => "Too many levels of symbolic links"

theorem ofNumber?_number (e : Errno) : ofNumber? e.number = some e := by cases e <;> rfl

end Errno

inductive ErrorKind where
  | notFound | permissionDenied | alreadyExists | invalidInput | invalidData | timedOut | interrupted
  | brokenPipe | unexpectedEof | wouldBlock | outOfMemory | unsupported | other
  deriving DecidableEq, Repr

namespace ErrorKind

def text : ErrorKind → String
  | notFound => "entity not found"
  | permissionDenied => "permission denied"
  | alreadyExists => "entity already exists"
  | invalidInput => "invalid input parameter"
  | invalidData => "invalid data"
  | timedOut => "timed out"
  | interrupted => "operation interrupted"
  | brokenPipe => "broken pipe"
  | unexpectedEof => "unexpected end of file"
  | wouldBlock => "operation would block"
  | outOfMemory => "out of memory"
  | unsupported => "unsupported"
  | other => "other error"

end ErrorKind

inductive SystemError where
  | numbered (e : Errno)
  | plain (kind : ErrorKind)
  | described (text : String)
  deriving DecidableEq, Repr

namespace SystemError

def message : SystemError → String
  | numbered e => e.text ++ " (os error " ++ toString e.number ++ ")"
  | plain kind => kind.text
  | described text => text

/-- A name or argument cannot be handed to the system because it holds a zero byte. -/
def zeroByte : SystemError := .described "nul byte found in provided data"

end SystemError

end DesktopRefresh
