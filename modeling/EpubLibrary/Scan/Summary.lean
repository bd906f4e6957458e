import EpubLibrary.Catalog.Derive
import EpubLibrary.Catalog.Error
import EpubLibrary.Files.Tree

namespace EpubLibrary

/-- Why a file cannot be imported. -/
inductive FailureCause where
  | unreadable (e : FileError)
  | extract (e : Epub.ExtractError)
  | derive (e : DeriveError)
  /-- a derived identifier is taken, and what the package declares as its own -/
  | collision (c : Collision) (declared : Option String)
  deriving DecidableEq

def FailureCause.reason : FailureCause → String
  | .unreadable e => "unable to read: " ++ e.text
  | .extract (.malformed e) => e.message
  | .extract e => "unexpected error: " ++ e.message
  | .derive e => "unexpected error: " ++ e.message
  | .collision c _ => c.message

/-- The identifier that the package declares, if it is known. -/
def FailureCause.identifier : FailureCause → Option String
  | .extract (.malformed e) => e.identifier
  | .collision _ declared => declared
  | _ => none

structure ScanFailure where
  path : Path
  cause : FailureCause
  deriving DecidableEq

structure ScanSummary where
  imported : List Book
  unchanged : Nat
  failed : List ScanFailure
  orphaned : List Book
  cancelled : Bool
  deriving DecidableEq

namespace ScanSummary

def empty : ScanSummary := ⟨[], 0, [], [], false⟩

/-- How counts are told. -/
def tell (imported unchanged failed orphaned : Nat) (cancelled : Bool) : String :=
  "imported " ++ toString imported ++ ", unchanged " ++ toString unchanged ++ ", failed " ++
    toString failed ++ ", orphaned " ++ toString orphaned ++
    (if cancelled then " (cancelled)" else "")

def text (s : ScanSummary) : String :=
  tell s.imported.length s.unchanged s.failed.length s.orphaned.length s.cancelled

end ScanSummary
end EpubLibrary
