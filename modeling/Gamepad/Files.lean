/-! # Files -/

namespace Gamepad

inductive ReadFault
  | notFound
  | isDirectory
  | notDirectory
  | nameTooLong
  | nulInName
  | notUtf8
  | other (text : String)
  deriving DecidableEq, Repr

def ReadFault.message : ReadFault → String
  | notFound => "No such file or directory (os error 2)"
  | isDirectory => "Is a directory (os error 21)"
  | notDirectory => "Not a directory (os error 20)"
  | nameTooLong => "File name too long (os error 36)"
  | nulInName => "file name contained an unexpected NUL byte"
  | notUtf8 => "stream did not contain valid UTF-8"
  | other text => text

structure FileAccess (m : Type → Type) where
  read : String → m (Except ReadFault ByteArray)
  isPresent : String → m Bool

namespace FileAccess

def decodeText (bytes : ByteArray) : Except ReadFault String :=
  match String.fromUTF8? bytes with
  | some text => .ok text
  | none => .error .notUtf8

def readText {m : Type → Type} [Monad m] (files : FileAccess m) (path : String) :
    m (Except ReadFault String) := do
  let bytes ← files.read path
  return bytes.bind decodeText

end FileAccess

def joinPath (dir name : String) : String :=
  if dir.isEmpty || dir.endsWith "/" then dir ++ name else dir ++ "/" ++ name

def isAbsolutePath (path : String) : Bool :=
  path.startsWith "/"

end Gamepad
