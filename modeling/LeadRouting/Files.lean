/-!
# Files

A program reads texts by path and never writes any. `Files m` is whatever answers a path with a text
or with the reason why there is none; `m` is the world in which it answers. `Folder` is a folder
that is known beforehand: **a path is walked part by part**, and what it meets on the way decides
why there is no text.
-/

namespace LeadRouting

/-! ## 1. Reading -/

/-- Why there is no text. -/
inductive ReadFault where
  | notFound | isDirectory | notDirectory | notText
  /-- Another reason, in words of its own. -/
  | other (reason : String)
  deriving DecidableEq

/-- The reason in words. -/
def ReadFault.message : ReadFault → String
  | .notFound => "No such file or directory (os error 2)"
  | .isDirectory => "Is a directory (os error 21)"
  | .notDirectory => "Not a directory (os error 20)"
  | .notText => "stream did not contain valid UTF-8"
  | .other reason => reason

/-- Something that answers paths with texts. -/
structure Files (m : Type → Type) where
  read : String → m (Except ReadFault String)

/-! ## 2. Paths -/

namespace Path

/-- The characters cut at every slash. -/
def cut : List Char → List (List Char)
  | [] => [[]]
  | c :: rest =>
    if c = '/' then [] :: cut rest
    else
      match cut rest with
      | part :: parts => (c :: part) :: parts
      | [] => [[c]]

/-- The parts of a path. -/
def parts (path : String) : List String := (cut path.toList).map String.ofList

/-- The name of the file that a path leads to. -/
def fileName? (path : String) : Option String :=
  ((parts path).reverse.find? fun p => p ≠ "" && p ≠ ".").filter fun p => p ≠ ".."

/-- The part of a file's name behind its last point; a point at the start does not count. -/
def ending? (path : String) : Option String :=
  (fileName? path).bind fun name =>
    let behind := name.toList.reverse.takeWhile (· ≠ '.')
    if behind.length + 1 < name.length then some (String.ofList behind.reverse) else none

/-- The characters of a path, the last one first, without the slashes and points in front that lead
nowhere. -/
def trimChars : List Char → List Char
  | '/' :: rest => trimChars rest
  | '.' :: '/' :: rest => trimChars rest
  | cs => cs

/-- The path without slashes at its end and without points that stand for the folder itself. -/
def trimmed (path : String) : String := String.ofList (trimChars path.toList.reverse).reverse

end Path

/-! ## 3. Folders -/

/-- The texts below a folder, each under the parts of its path. -/
structure Folder where
  entries : List (List String × String)

namespace Folder

/-- The folder of some texts, each under a path. -/
def ofList (texts : List (String × String)) : Folder :=
  ⟨texts.map fun (path, text) => ((Path.parts path).filter fun p => p ≠ "" && p ≠ ".", text)⟩

/-- The text at a place. -/
def textAt? (f : Folder) (place : List String) : Option String :=
  (f.entries.find? fun (p, _) => p = place).map Prod.snd

/-- The place is the folder itself or one in which some text lies. -/
def isFolderAt (f : Folder) (place : List String) : Bool :=
  place.isEmpty || f.entries.any fun (p, _) => place.isPrefixOf p && place ≠ p

/-- The text that the parts lead to from a folder at a place. -/
def walk (f : Folder) (place : List String) : List String → Except ReadFault String
  | [] => .error .isDirectory
  | part :: rest =>
    if part = "" || part = "." then walk f place rest
    else if part = ".." then
      if place.isEmpty then .error .notFound else walk f place.dropLast rest
    else
      let next := place ++ [part]
      match f.textAt? next with
      | some text => if rest.isEmpty then .ok text else .error .notDirectory
      | none => if f.isFolderAt next then walk f next rest else .error .notFound

/-- The folder as something that answers paths; a path from the root leads nowhere. -/
def files (f : Folder) : Files Id where
  read path :=
    if path = "" || path.toList.head? = some '/' then .error .notFound
    else f.walk [] (Path.parts path)

end Folder

end LeadRouting
