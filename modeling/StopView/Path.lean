import StopView.Text.Pieces

/-!
# Paths

A path keeps the spelling it was given.  Two spellings name the same path when they
have the same components: repeated and trailing slashes and inner dots do not
count, while a leading dot and every double dot do.
-/

namespace StopView

/-- One step of a path. -/
inductive Component where
  | root
  | here
  | up
  | name (text : String)
deriving Repr, DecidableEq

/-- A path as it was spelled. -/
structure Path where
  text : String
deriving Repr, DecidableEq

namespace Path

/-- The non-empty pieces between slashes. -/
def names (path : Path) : List String :=
  ((Text.pieces (· == '/') path.text.toList).filter fun piece => !piece.isEmpty).map
    String.ofList

/-- Whether a path starts from the root. -/
def isRooted (path : Path) : Bool :=
  path.text.toList.head? == some '/'

/-- Whether a path ends in a slash. -/
def endsInSlash (path : Path) : Bool :=
  path.text.toList.getLast? == some '/'

/-- The component that a piece stands for, if it is not an inner dot. -/
def component? (name : String) : Option Component :=
  if name = "." then none
  else if name = ".." then some .up
  else some (.name name)

/-- The components of a path. -/
def components (path : Path) : List Component :=
  if path.isRooted then
    .root :: path.names.filterMap component?
  else
    match path.names with
    | "." :: rest => .here :: rest.filterMap component?
    | names => names.filterMap component?

/-- Whether two spellings name the same path. -/
def Same (left right : Path) : Prop :=
  left.components = right.components

instance (left right : Path) : Decidable (Same left right) :=
  inferInstanceAs (Decidable (left.components = right.components))

theorem Same.refl (path : Path) : Same path path :=
  rfl

theorem Same.symm {left right : Path} (same : Same left right) : Same right left :=
  Eq.symm same

theorem Same.trans {first second third : Path} (left : Same first second)
    (right : Same second third) : Same first third :=
  Eq.trans left right

/-- How a component is spelled between slashes. -/
def Component.spelling : Component → String
  | .root => ""
  | .here => "."
  | .up => ".."
  | .name text => text

/-- The plainest spelling of a list of components. -/
def ofComponents : List Component → Path
  | [.root] => ⟨"/"⟩
  | components => ⟨"/".intercalate (components.map Component.spelling)⟩

/-- The path without its last component.  The empty path and the root have no parent. -/
def parent? (path : Path) : Option Path :=
  match path.components.getLast? with
  | none => none
  | some .root => none
  | some _ => some (ofComponents path.components.dropLast)

/-- The last component, if it is a name. -/
def fileName? (path : Path) : Option String :=
  match path.components.getLast? with
  | some (.name text) => some text
  | _ => none

/-- A relative path taken from a directory. -/
def join (directory path : Path) : Path :=
  if path.isRooted then path
  else if directory.text = "" || directory.endsInSlash then ⟨directory.text ++ path.text⟩
  else ⟨directory.text ++ "/" ++ path.text⟩

end Path

end StopView
