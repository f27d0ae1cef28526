import FederationConfig.Text.Basic
import FederationConfig.Text.Utf8

/-!
Paths of files, which are bytes and need not be Unicode: their limits, their extension, and what
reading them gives.
-/

namespace FederationConfig

structure FilePath where
  bytes : List UInt8
  deriving DecidableEq, Repr, Inhabited

abbrev PathPart := List UInt8

namespace FilePath

def ofText (text : String) : FilePath := ⟨text.toUTF8.data.toList⟩

instance : Coe String FilePath := ⟨ofText⟩

instance {F : Type → Type} [Functor F] : Coe (F String) (F FilePath) := ⟨Functor.map ofText⟩

/-- The path as text, in which all that is not Unicode is replaced. -/
def display (path : FilePath) : String := String.ofList (Text.decode path.bytes)

end FilePath

def slash : UInt8 := 0x2f

def dot : UInt8 := 0x2e

def pathParts (path : FilePath) : List PathPart := Text.split slash path.bytes

def greatestPathLength : Nat := 4096

def greatestPartLength : Nat := 255

def isPathTooLong (path : FilePath) : Bool := decide (greatestPathLength < path.bytes.length)

/-- Empty parts and single dots, which lead nowhere, are short enough to make no difference. -/
def hasPartTooLong (path : FilePath) : Bool :=
  (pathParts path).any fun part => decide (greatestPartLength < part.length)

/-- The last part of a path that says anything, unless it leads upwards. -/
def fileName? (path : FilePath) : Option PathPart :=
  match ((pathParts path).filter fun part => part ≠ [] ∧ part ≠ [dot]).getLast? with
  | none => none
  | some name => if name = [dot, dot] then none else some name

/-- What follows the last dot of a name; a dot in front of a name starts no extension. -/
def extensionOf? (name : PathPart) : Option (List UInt8) :=
  let reversed := name.reverse
  match reversed.dropWhile (· ≠ dot) with
  | [] => none
  | [_] => none
  | _ => some (reversed.takeWhile (· ≠ dot)).reverse

def pathExtension? (path : FilePath) : Option (List UInt8) :=
  (fileName? path).bind extensionOf?

def lowerByte (byte : UInt8) : UInt8 := if 0x41 ≤ byte ∧ byte ≤ 0x5a then byte + 0x20 else byte

def hasExtension (path : FilePath) (extension : String) : Bool :=
  (pathExtension? path).any fun found => found.map lowerByte = (FilePath.ofText extension).bytes

inductive FileFault where
  | notFound
  | notDirectory
  | isDirectory
  | nameTooLong
  | accessDenied
  | nulInName
  | other (text : String)
  deriving DecidableEq, Repr

def FileFault.message : FileFault → String
  | notFound => "No such file or directory (os error 2)"
  | notDirectory => "Not a directory (os error 20)"
  | isDirectory => "Is a directory (os error 21)"
  | nameTooLong => "File name too long (os error 36)"
  | accessDenied => "Permission denied (os error 13)"
  | nulInName => "file name contained an unexpected NUL byte"
  | other text => text

abbrev FileSystem := FilePath → Except FileFault ByteArray

end FederationConfig
