import SignatureSearch.Files.Path

/-!
# Naming documentation files

A documentation file is named by its path, with the package before an equals sign if it is to be
told.  Otherwise the package takes the name of the file or, where the file is just called `docs`, of
the directory that the file lies in.
-/

namespace SignatureSearch
namespace CommandLine

/-- A documentation file and the package that it documents. -/
structure DocsArgument where
  /-- The package. -/
  package : String
  /-- The file. -/
  path : Path
  deriving DecidableEq, Repr, Inhabited

namespace DocsArgument

/-- The package that a file documents when none is told. -/
def packageOf (path : Path) : List Char :=
  if path.stem = "docs".toList ∧ path.parent.name ≠ [] then path.parent.name else path.stem

/-- What an argument names. -/
def ofText (argument : String) : DocsArgument :=
  let chars := argument.toList
  match chars.dropWhile (· != '=') with
  | _ :: path =>
      { package := String.ofList (chars.takeWhile (· != '=')), path := Path.ofChars path }
  | [] =>
      let path := Path.ofChars chars
      { package := String.ofList (packageOf path), path }

end DocsArgument
end CommandLine
end SignatureSearch
