import EpubLibrary.Path

namespace EpubLibrary

structure Environment where
  bindings : List (String × String)
  cwd : Path
  /-- the home directories of users, by name; that of the user of the program goes by no name -/
  homes : List (String × String)

namespace Environment

def get? (env : Environment) (name : String) : Option String := env.bindings.lookup name

/-- Gives a value to a variable that has none. -/
def define (env : Environment) (name value : String) : Environment :=
  { env with bindings := env.bindings ++ [(name, value)] }

/-- The home directory that a component with a leading tilde stands for. A tilde alone is the home
of the user of the program, which a variable may tell. -/
def homeText? (env : Environment) (user : List Char) : Option String :=
  match if user = [] then env.get? "HOME" else none with
  | some home => some home
  | none => env.homes.lookup (String.ofList user)

/-- A path whose first component is a tilde, perhaps with a user's name, starts in that user's home
directory, if it is known. Other paths stay. -/
def expand (env : Environment) (p : Path) : Option Path :=
  match p.slashes, p.parts with
  | 0, ('~' :: user) :: rest =>
    match env.homeText? user with
    | none => none
    | some home =>
      match (home.toList.reverse.dropWhile (· = '/')).reverse with
      | [] => some ⟨1, rest⟩
      | '~' :: _ => none
      | h =>
        let start := Path.ofText h
        some ⟨start.slashes, start.parts ++ rest⟩
  | _, _ => some p

/-- The home directory of the user. -/
def home? (env : Environment) : Option Path := env.expand ⟨0, [['~']]⟩

end Environment
end EpubLibrary
