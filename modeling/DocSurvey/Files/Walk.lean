import DocSurvey.Files.Tree

/-! A walk through everything that stands below a path. A directory comes before what lies in it,
and the entries of a directory come in the order of the tree. Links are not followed, except one
that the path itself leads to, and directories may be left out by their names with all that lies
in them.
-/

namespace DocSurvey

/-- Something found on a walk: the names that lead to it from the start, none for the start itself,
and what stands there.
-/
structure Visit where
  names : Place
  node : Node
  deriving Repr, DecidableEq, Inhabited

namespace Visit

def isFile (found : Visit) : Bool :=
  match found.node with
  | .file _ => true
  | _ => false

/-- The path of what was found, in the spelling of the path the walk started from. -/
def path (start : String) (found : Visit) : String :=
  found.names.foldl Path.join start

/-- What was found in a directory, as seen from the one above. -/
def within (directory : String) (found : Visit) : Visit :=
  { found with names := directory :: found.names }

end Visit

namespace FileTree

def depth (tree : FileTree) : Nat :=
  tree.entries.foldl (fun depth entry => max depth entry.1.length) 0

/-- Everything in the directory at a place, so many levels down. A directory is entered if its
name is accepted, and otherwise passed over.
-/
def descend (tree : FileTree) (enters : String → Bool) : (levels : Nat) → Place → List Visit
  | 0, _ => []
  | levels + 1, place =>
      (tree.children place).flatMap fun (name, node) =>
        match node with
        | .directory =>
            if enters name then
              ⟨[name], .directory⟩
                :: (tree.descend enters levels (place ++ [name])).map (Visit.within name)
            else []
        | node => [⟨[name], node⟩]

/-- Everything that a walk from the path finds, the start first. -/
def walkFrom (tree : FileTree) (enters : String → Bool) (path : String)
    : Except SystemError (List Visit) := do
  let (_, node) ← tree.find false path
  match ← tree.find true path with
  | (place, .directory) => return ⟨[], node⟩ :: tree.descend enters tree.depth place
  | _ => return [⟨[], node⟩]

/-- What a walk finds that enters all directories; nothing if it cannot start. -/
def found (tree : FileTree) (path : String) : List Visit :=
  (tree.walkFrom (fun _ => true) path).toOption.getD []

def walkProblem (path : String) (cause : SystemError) : String :=
  s!"IO error for operation on {path}: {cause.message}"

end FileTree

end DocSurvey
