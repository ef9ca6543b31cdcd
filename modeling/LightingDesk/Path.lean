/-!
Paths as texts: parts are separated by slashes, and empty parts and single dots say nothing.
-/

namespace LightingDesk.Path

/-- The characters before and behind the last occurrence of a separator. -/
def splitLast? (separator : Char) : List Char → Option (List Char × List Char)
  | [] => none
  | c :: rest =>
      match splitLast? separator rest with
      | some (before, after) => some (c :: before, after)
      | none => if c = separator then some ([], rest) else none

/-- A path backwards, without the slashes and single dots at its end; a root or a lone dot
stays. -/
def trimEnd : List Char → List Char
  | ['/'] => ['/']
  | '/' :: rest => trimEnd rest
  | '.' :: '/' :: rest => trimEnd ('/' :: rest)
  | rest => rest

def trimmed (path : String) : List Char := (trimEnd path.toList.reverse).reverse

/-- The directory of the files whose paths begin with the given one. -/
def directory (path : String) : String := String.ofList (trimmed path)

/-- A path and the paths of what it leads through, the longest first. -/
def ancestors (path : String) : List String :=
  go path.toList.reverse
where
  go : List Char → List String
    | [] => []
    | c :: rest =>
        let longer := String.ofList (c :: rest).reverse
        if c = '/' ∨ rest.isEmpty then longer :: go rest else go rest

/-- The last part of a path, unless it leads to a parent or the root. -/
def fileName? (path : String) : Option (List Char) :=
  let path := trimmed path
  let name := match splitLast? '/' path with
    | some (_, name) => name
    | none => path
  if name = [] ∨ name = ['.'] ∨ name = ['.', '.'] then none else some name

/-- What stands behind the last dot of a name. A dot that begins a name does not count. -/
def extensionOf? (name : List Char) : Option String :=
  match splitLast? '.' name with
  | some (_ :: _, extension) => some (String.ofList extension)
  | _ => none

def extension? (path : String) : Option String := (fileName? path).bind extensionOf?

end LightingDesk.Path
