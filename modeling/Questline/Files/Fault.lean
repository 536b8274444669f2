import Questline.Text.Quoted

/-! Why a file cannot be read or written, by the numbers and names that an operating system has
for it. -/

namespace Questline

inductive FileFault
  | missing : FileFault
  | busy : FileFault
  /-- Something is there already. -/
  | taken : FileFault
  | notFolder : FileFault
  | isFolder : FileFault
  | nameTooLong : FileFault
  /-- A path holds the character that ends all paths. -/
  | zeroByte : FileFault
  deriving DecidableEq

namespace FileFault

def wording (path : String) : FileFault → String
  | .missing => numbered 2 "No such file or directory"
  | .busy => numbered 16 "Device or resource busy"
  | .taken => numbered 17 "File exists"
  | .notFolder => numbered 20 "Not a directory"
  | .isFolder => numbered 21 "Is a directory"
  | .nameTooLong => numbered 36 "File name too long"
  | .zeroByte => "embedded null byte"
where
  numbered (n : Nat) (what : String) : String := s!"[Errno {n}] {what}: {Text.quote path}"

end FileFault

end Questline
