/-!
# What the file system refuses

A fault is the reason why a file could not be read, created or resolved.
`Fault.message` is its text, with the number of the system error where it has
one.
-/

namespace SourceMend

/-- The reason why an operation on files failed. -/
inductive Fault where
  /-- A component of the path does not exist. -/
  | notFound
  /-- A component of the path that has to be a directory is a file. -/
  | notDirectory
  /-- The path names a directory where a file is needed. -/
  | isDirectory
  /-- The path is in use although a new file is needed. -/
  | occupied
  /-- A name in the path is too long. -/
  | nameTooLong
  /-- The path holds a NUL character. -/
  | nulInPath
  /-- The command holds a NUL character. -/
  | nulInCommand
  /-- The file is no program. -/
  | notExecutable
  /-- The bytes are not UTF-8 where a whole file is read as text. -/
  | notText
  /-- The bytes stop being UTF-8 after `valid` bytes.  The faulty sequence has `length` bytes, or
  is cut off by the end of the file. -/
  | badSequence (valid : Nat) (length : Option Nat)
  /-- Every name that a backup next to `base` could take is in use. -/
  | noFreeName (base : String)
  deriving DecidableEq, Repr

namespace Fault

/-- A system error: what it says and its number. -/
def system (what : String) (number : Nat) : String :=
  what ++ " (os error " ++ toString number ++ ")"

/-- The text of a fault. -/
def message : Fault → String
  | notFound => system "No such file or directory" 2
  | notExecutable => system "Permission denied" 13
  | occupied => system "File exists" 17
  | notDirectory => system "Not a directory" 20
  | isDirectory => system "Is a directory" 21
  | nameTooLong => system "File name too long" 36
  | nulInPath => "file name contained an unexpected NUL byte"
  | nulInCommand => "nul byte found in provided data"
  | notText => "stream did not contain valid UTF-8"
  | badSequence valid (some n) =>
    "invalid utf-8 sequence of " ++ toString n ++ " bytes from index " ++ toString valid
  | badSequence valid none => "incomplete utf-8 byte sequence from index " ++ toString valid
  | noFreeName base => "no free backup name next to " ++ base

end Fault
end SourceMend
