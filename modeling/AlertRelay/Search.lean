import AlertRelay.Text.Path
import AlertRelay.Text.Split

/-!
# Finding an executable

The search path is a list of directories with colons between them. The first directory in which
the name is a regular file wins. An empty entry stands for the current directory.
-/
namespace AlertRelay.Search

/-- Where the name is looked for, in order. -/
def candidates (path : String) (name : String) : List String :=
  (Text.split ':' path.toList).map fun dir => Text.joinPath (String.ofList dir) name

/-- The first candidate that is a file; none without a search path. -/
def find? (isFile : String → Bool) (path? : Option String) (name : String) : Option String :=
  path?.bind fun path => (candidates path name).find? isFile

/-- Folders and files below a root, each by the names that lead to it. -/
structure Tree where
  root : String
  folders : List (List String)
  files : List (List String)

namespace Tree

/-- The names of a path. -/
def names (path : String) : List String := (Text.split '/' path.toList).map String.ofList

def build (root : String) (folders files : List String) : Tree where
  root := root
  folders :=
    (folders.map names).flatMap (fun ns => (List.range (ns.length + 1)).map ns.take)
      ++ (files.map names).flatMap (fun ns => (List.range ns.length).map ns.take)
  files := files.map names

/-- Follows names from a folder, given innermost first. Only a folder is passed through, and `.`
and `..` are looked up in one. -/
def reachesFile (t : Tree) (folder : List String) : List String → Bool
  | [] => false
  | name :: rest =>
      if name = "" || name = "." then t.reachesFile folder rest
      else if name = ".." then t.reachesFile folder.tail rest
      else
        let here := name :: folder
        if t.files.contains here.reverse then rest.isEmpty
        else t.folders.contains here.reverse && t.reachesFile here rest

def isFile (t : Tree) (path : String) : Bool :=
  let ns := names path
  let root := names t.root
  root.isPrefixOf ns && t.reachesFile [] (ns.drop root.length)

end Tree
end AlertRelay.Search
