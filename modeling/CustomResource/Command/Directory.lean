import CustomResource.Command.Run

/-!
# Commands in a directory

A working directory as data, and what a command line does in it.  The directory holds plain files only; a
path may walk through the directory itself, but not through a file.  Around it there are the directories
above and any others that are named by full paths.
-/

namespace CustomResource.Command

open Descriptor Wire

/-- A working directory. -/
structure Directory where
  /-- The files by name. -/
  files : List (String × Bytes) := []
  /-- The full paths of directories elsewhere, as segments. -/
  elsewhere : List (List String) := [[]]
  deriving DecidableEq, Repr

/-- What a path leads to. -/
inductive Place where
  /-- A file of the directory, or a name that one may get. -/
  | name (name : String)
  | directory
  /-- Nothing that could be read or written, because of the given cause. -/
  | nowhere (cause : FileError)
  deriving DecidableEq, Repr

namespace Directory

/-- The error for a path that goes on below a file. -/
def notDirectory : FileError :=
  .other "Not a directory (os error 20)"

/-- What a relative path leads to, by its segments. -/
def placeOfSegments (directory : Directory) : List String → Place
  | [] => .directory
  | segment :: rest =>
      if segment = "." ∨ segment = "" then placeOfSegments directory rest
      else if segment = ".." then
        if rest.all fun segment => segment ∈ ["..", ".", ""] then .directory else .nowhere .notFound
      else if rest = [] then .name segment
      else if (directory.files.lookup segment).isSome then .nowhere notDirectory
      else .nowhere .notFound

/-- What a path leads to. -/
def place (directory : Directory) (path : String) : Place :=
  let segments := (path.toList.splitOn '/').map String.ofList
  match path.toList with
  | [] => .nowhere .notFound
  | '/' :: _ =>
      let full := segments.filter fun segment => segment ∉ [".", ""]
      if full ∈ directory.elsewhere then .directory else .nowhere .notFound
  | _ => directory.placeOfSegments segments

/-- Read a file. -/
def read (directory : Directory) (path : String) : Except FileError Bytes :=
  match directory.place path with
  | .name name =>
      match directory.files.lookup name with
      | some bytes => .ok bytes
      | none => .error .notFound
  | .directory => .error .isDirectory
  | .nowhere cause => .error cause

/-- Write a file, in place of one of the same name. -/
def write (directory : Directory) (path : String) (bytes : Bytes) : Except FileError Directory :=
  match directory.place path with
  | .name name =>
      .ok { directory with files := directory.files.filter (·.1 != name) ++ [(name, bytes)] }
  | .directory => .error .isDirectory
  | .nowhere cause => .error cause

/-- Bring a command to its end: answer for its failure, or let it have its effect. -/
def finish (directory : Directory) (warnings : List String) : Except Failure Effect → Response × Directory
  | .error failure => (.failure warnings failure, directory)
  | .ok (.print text) => (.success warnings text, directory)
  | .ok (.save path text) =>
      match directory.write path text.toUTF8.toList with
      | .ok directory => (.success warnings "", directory)
      | .error cause => (.failure warnings (.writing path cause), directory)

/-- Run a command line in a directory; no response if it never comes to its end. -/
def run? (directory : Directory) (arguments : List String) : Option (Response × Directory) :=
  match Invocation.ofArguments arguments with
  | .error stop => some (stop.response, directory)
  | .ok invocation =>
      let run := invocation.run directory.read
      run.result?.map (directory.finish run.warnings)

end Directory

end CustomResource.Command
