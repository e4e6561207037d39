import ServerLink.Files.Tree

/-!
Which file an import means. A module that is named by a relative path is looked for as a file of
that name, then as the typed source of a script, then with each extension in order, and last as
the index of a directory.
-/

set_option autoImplicit false

namespace ServerLink

namespace Path

/-- The components with dots and steps upwards carried out; there is nothing above the root. -/
def reduce (cs : List Component) : List Component :=
  cs.foldl (fun done c => match c with
    | .here => done
    | .up => if done == [.root] then done else done.dropLast
    | .root => [.root]
    | c => done ++ [c]) []

/-- The directory that holds a file. -/
def directory (file : Path) : Path :=
  match parentComponents file.components with
  | some cs => ofComponents cs
  | none => ⟨"."⟩

/-- The path with an extension in the place of its own. -/
def withExtension (p : Path) (ext : String) : Path :=
  match p.components.getLast? with
  | some (.name s) =>
      let stem := String.ofList (splitName s.toList).1
      ofComponents (p.components.dropLast ++ [.name (stem ++ "." ++ ext)])
  | _ => p

/-- The extensions of the typed sources that a script may be made from. -/
def typedExtensions (ext : Option String) : List String :=
  match ext with
  | some "js" => ["ts", "tsx"]
  | some "jsx" => ["tsx"]
  | some "mjs" => ["mts"]
  | some "cjs" => ["cts"]
  | _ => []

/-- The path that a relative specifier spells in a module. -/
def candidate (importer : Path) (specifier : String) : Path :=
  ofComponents (reduce (importer.directory.join ⟨specifier⟩).components)

/-- The files that a candidate may mean, in the order in which they are looked for. -/
def alternatives (candidate : Path) (extensions : List String) (isDirectory : Bool) : List Path :=
  candidate :: (typedExtensions candidate.extension).map candidate.withExtension
    ++ extensions.map (fun ext => ⟨candidate.text ++ "." ++ ext⟩)
    ++ (if isDirectory then extensions.map fun ext => candidate.join ⟨"index." ++ ext⟩ else [])

end Path

namespace FileTree

/-- The file that a specifier means in a module; only relative specifiers mean files. -/
def resolve? (t : FileTree) (importer : Path) (specifier : String) (extensions : List String) :
    Option Path :=
  if specifier.toList.head? == some '.' then
    let c := Path.candidate importer specifier
    (((Path.alternatives c extensions (t.isDirectory c)).find? t.isFile)).map fun p =>
      match t.canonical p with
      | .ok q => q
      | .error _ => p
  else none

end FileTree

end ServerLink
